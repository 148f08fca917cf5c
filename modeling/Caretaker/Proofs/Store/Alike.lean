import Caretaker.Proofs.Converge
import Caretaker.Proofs.PodReport

/-!
# Stores that differ in the versions of children

Two stores are alike (`MemoryStore.Alike`) if they hold the same objects, except that a child may
have another version in each.  A child is converged in the same way in stores that are alike, and
they are alike afterwards (`MemoryStore.Alike.converged`, `MemoryStore.Alike.leave`).
-/

namespace Caretaker

theorem Object.eq_withVersion {kind : Kind} {left right : Object kind}
    (same : left.unversioned = right.unversioned) :
    right = left.withVersion right.metadata.resourceVersion := by
  have again := congrArg (fun object : Object kind =>
    object.withVersion right.metadata.resourceVersion) same
  exact again.symm

namespace MemoryStore

variable {store left middle right : MemoryStore} {kind : ChildKind} {ns name : String}

/-- A stored child without its version. -/
def child? (store : MemoryStore) (kind : ChildKind) (ns name : String) : Option (Child kind) :=
  (store.object? (.child kind) ns name).map Object.unversioned

/-- Stores that hold the same objects but for the versions of children. -/
structure Alike (left right : MemoryStore) : Prop where
  children : ∀ kind ns name, left.child? kind ns name = right.child? kind ns name
  others : ∀ key : Key, (∀ kind, key.kind ≠ .child kind) → left.document? key = right.document? key
  assigned : left.assigned = right.assigned

namespace Alike

theorem of_objects (objects : left.objects = right.objects)
    (assigned : left.assigned = right.assigned) : Alike left right where
  children kind ns name := by
    simp only [child?, object?, document?, objects]
  others key _ := by simp only [document?, objects]
  assigned := assigned

theorem symm (alike : Alike left right) : Alike right left where
  children kind ns name := (alike.children kind ns name).symm
  others key other := (alike.others key other).symm
  assigned := alike.assigned.symm

theorem trans (first : Alike left middle) (second : Alike middle right) : Alike left right where
  children kind ns name := (first.children kind ns name).trans (second.children kind ns name)
  others key other := (first.others key other).trans (second.others key other)
  assigned := first.assigned.trans second.assigned

theorem nextUid (alike : Alike left right) : left.nextUid = right.nextUid := by
  rw [MemoryStore.nextUid, MemoryStore.nextUid, alike.assigned]

theorem pods (alike : Alike left right) (ns : String) (labels : LabelMap) :
    left.pods ns labels = right.pods ns labels := by
  rw [MemoryStore.pods, MemoryStore.pods]
  rw [documentsWhere_congr fun key isPod => alike.others key (by simp [isPod])]

theorem storageClasses (alike : Alike left right) : left.storageClasses = right.storageClasses := by
  rw [MemoryStore.storageClasses, MemoryStore.storageClasses]
  rw [documentsWhere_congr fun key isClass => alike.others key (by simp [isClass])]

end Alike

/-- A child of stores that are alike has the same document in both, or another version in each. -/
theorem Alike.document?_child (alike : Alike left right) (leftWellFormed : left.WellFormed)
    (rightWellFormed : right.WellFormed) (kind : ChildKind) (ns name : String) :
    right.document? ⟨.child kind, ns, name⟩ = left.document? ⟨.child kind, ns, name⟩ ∨
      ∃ (child : Child kind) (version : Option String),
        left.document? ⟨.child kind, ns, name⟩ = some child.encode ∧
        right.document? ⟨.child kind, ns, name⟩ = some (child.withVersion version).encode := by
  have same := alike.children kind ns name
  rw [child?, child?] at same
  cases found : left.object? (.child kind) ns name with
  | none =>
    rw [found, Option.map_none] at same
    have gone := (object?_eq_none_iff rightWellFormed).mp (Option.map_eq_none_iff.mp same.symm)
    exact Or.inl (gone.trans ((object?_eq_none_iff leftWellFormed).mp found).symm)
  | some child =>
    rw [found, Option.map_some] at same
    obtain ⟨other, there, unversioned⟩ := Option.map_eq_some_iff.mp same.symm
    rw [Object.eq_withVersion unversioned.symm] at there
    exact Or.inr ⟨child, _, (object?_eq_some_iff leftWellFormed).mp found,
      (object?_eq_some_iff rightWellFormed).mp there⟩

/-- Under every key, stores that are alike hold the same document, or two versions of a child. -/
theorem Alike.documents (alike : Alike left right) (leftWellFormed : left.WellFormed)
    (rightWellFormed : right.WellFormed) (key : Key) :
    right.document? key = left.document? key ∨
      ∃ (childKind : ChildKind) (child : Child childKind) (version : Option String),
        key.kind = .child childKind ∧ left.document? key = some child.encode ∧
        right.document? key = some (child.withVersion version).encode := by
  obtain ⟨keyKind, ns, name⟩ := key
  cases keyKind with
  | child childKind =>
    rcases alike.document?_child leftWellFormed rightWellFormed childKind ns name with
      same | ⟨child, version, here, there⟩
    · exact Or.inl same
    · exact Or.inr ⟨childKind, child, version, rfl, here, there⟩
  | parent => exact Or.inl (alike.others _ (by simp)).symm
  | pod => exact Or.inl (alike.others _ (by simp)).symm
  | storageClass => exact Or.inl (alike.others _ (by simp)).symm

theorem child?_put_self (store : MemoryStore) (ns name : String) (child : Child kind) :
    (store.put ns name child).child? kind ns name = some child.unversioned := by
  rw [child?, object?_put_self, Option.map_some]

theorem child?_put_of_ne (store : MemoryStore) {ns name : String} {putKind : Kind}
    (object : Object putKind) {otherNs otherName : String}
    (apart : (⟨.child kind, otherNs, otherName⟩ : Key) ≠ ⟨putKind, ns, name⟩) :
    (store.put ns name object).child? kind otherNs otherName =
      store.child? kind otherNs otherName := by
  rw [child?, object?_put_of_ne store object apart, child?]

/-- Stores stay alike if the same object, but for its version, is put into both. -/
theorem Alike.put_child {leftAfter rightAfter : MemoryStore} (alike : Alike left right)
    {leftChild rightChild : Child kind} (same : leftChild.unversioned = rightChild.unversioned)
    (leftObjects : leftAfter.objects = (left.put ns name leftChild).objects)
    (rightObjects : rightAfter.objects = (right.put ns name rightChild).objects)
    (assigned : leftAfter.assigned = rightAfter.assigned) : Alike leftAfter rightAfter where
  children otherKind otherNs otherName := by
    simp only [child?, object?, document?, leftObjects, rightObjects]
    show (left.put ns name leftChild).child? otherKind otherNs otherName =
      (right.put ns name rightChild).child? otherKind otherNs otherName
    by_cases here : (⟨.child otherKind, otherNs, otherName⟩ : Key) = ⟨.child kind, ns, name⟩
    · cases here
      rw [child?_put_self, child?_put_self, same]
    · rw [child?_put_of_ne _ _ here, child?_put_of_ne _ _ here, alike.children]
  others key other := by
    simp only [document?, leftObjects, rightObjects]
    show (left.put ns name leftChild).document? key = (right.put ns name rightChild).document? key
    rw [document?_put, document?_put, if_neg, if_neg]
    · exact alike.others key other
    · exact fun same => other kind (congrArg Key.kind same)
    · exact fun same => other kind (congrArg Key.kind same)
  assigned := assigned

/-- Stores stay alike if the same object of another kind is put into both. -/
theorem Alike.put_other {leftAfter rightAfter : MemoryStore} {putKind : Kind}
    (alike : Alike left right) (object : Object putKind)
    (notChild : ∀ kind, putKind ≠ .child kind)
    (leftObjects : leftAfter.objects = (left.put ns name object).objects)
    (rightObjects : rightAfter.objects = (right.put ns name object).objects)
    (assigned : leftAfter.assigned = rightAfter.assigned) : Alike leftAfter rightAfter where
  children otherKind otherNs otherName := by
    simp only [child?, object?, document?, leftObjects, rightObjects]
    show (left.put ns name object).child? otherKind otherNs otherName =
      (right.put ns name object).child? otherKind otherNs otherName
    have apart : (⟨.child otherKind, otherNs, otherName⟩ : Key) ≠ ⟨putKind, ns, name⟩ :=
      fun same => notChild otherKind (congrArg Key.kind same).symm
    rw [child?_put_of_ne _ _ apart, child?_put_of_ne _ _ apart, alike.children]
  others key other := by
    simp only [document?, leftObjects, rightObjects]
    show (left.put ns name object).document? key = (right.put ns name object).document? key
    rw [document?_put, document?_put, alike.others key other]
  assigned := assigned

/-- Converging a child gives the same, but for the version, if the child that is there is the same
but for its version. -/
theorem converged_alike {owner : OwnerReference} {desired : Child kind} {uid : String}
    {live other : Option (Child kind)} {after : Converged kind}
    (same : live.map Object.unversioned = other.map Object.unversioned)
    (became : converged owner desired uid live = .ok after) :
    ∃ otherAfter, converged owner desired uid other = .ok otherAfter ∧
      otherAfter.outcome = after.outcome ∧
      otherAfter.object.unversioned = after.object.unversioned := by
  cases live with
  | none =>
    cases other with
    | none => exact ⟨after, became, rfl, rfl⟩
    | some => cases same
  | some live =>
    cases other with
    | none => cases same
    | some other =>
      obtain ⟨version, rfl⟩ : ∃ version, other = live.withVersion version :=
        ⟨_, Object.eq_withVersion (Option.some.inj same)⟩
      rcases converged_some_eq_ok.mp became with
        ⟨createOnly, rfl⟩ | ⟨isMutable, child, replaced, ⟨key, writable⟩, rfl⟩
      · exact ⟨_, converged_some_eq_ok.mpr (Or.inl ⟨createOnly, rfl⟩), rfl, rfl⟩
      · have again : replacement owner (live.withVersion version) desired =
            .ok (child.withVersion version) := by
          rw [replacement_withVersion, replaced]
          rfl
        exact ⟨_, converged_some_eq_ok.mpr
          (Or.inr ⟨isMutable, child.withVersion version, again, ⟨key, writable⟩, rfl⟩), rfl, rfl⟩

/-- Stores are alike after the same became of a child in both. -/
theorem Alike.leave (alike : Alike left right) {leftAfter rightAfter : Converged kind}
    (outcome : leftAfter.outcome = rightAfter.outcome)
    (object : leftAfter.object.unversioned = rightAfter.object.unversioned) (ns name : String) :
    Alike (leftAfter.leave left ns name) (rightAfter.leave right ns name) := by
  refine alike.put_child object rfl rfl ?_
  show left.assigned + _ = right.assigned + _
  rw [alike.assigned, outcome]

end MemoryStore

end Caretaker
