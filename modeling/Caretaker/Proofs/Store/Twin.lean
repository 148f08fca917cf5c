import Caretaker.Proofs.Converge
import Caretaker.Proofs.PodReport

/-!
# Stores that a pass cannot tell apart

What becomes of a child does not depend on uids: neither on the one that a new child gets nor on the
one that the child which is there has (`anonymous_converged`).  So a pass cannot tell two stores
apart (`MemoryStore.Twins`) if they hold the same parent, the same pods and storage classes, and the
same children in the places of its own but for their uids.
-/

namespace Caretaker

namespace Object

variable {kind : Kind}

/-- The object without its uid. -/
def anonymous (object : Object kind) : Object kind :=
  { object with metadata := { object.metadata with uid := none } }

/-- Objects that are the same without their uids differ in the uid at most. -/
theorem eq_withUid {left right : Object kind} (same : left.anonymous = right.anonymous)
    (given : right.metadata.uid.isSome) : right = left.withUid right.uidD := by
  have again := congrArg (fun object : Object kind => object.withUid right.uidD) same
  exact (withUid_uidD given).symm.trans again.symm

theorem anonymous_attachOwner (object : Object kind) (owner : OwnerReference) :
    object.anonymous.attachOwner owner = (object.attachOwner owner).map anonymous := by
  rw [attachOwner_eq, attachOwner_eq]
  show (attachReference object.ownerReferences owner).map _ = _
  cases attachReference object.ownerReferences owner <;> rfl

end Object

section Child

variable {kind : ChildKind}

theorem anonymous_replacement (owner : OwnerReference) (live desired : Child kind) :
    replacement owner live.anonymous desired =
      (replacement owner live desired).map Object.anonymous := by
  rw [replacement_eq, replacement_eq, Object.anonymous_attachOwner]
  cases live.attachOwner owner <;> rfl

/-- What became of a child, but for its uid. -/
def Converged.anonymous (became : Converged kind) : Converged kind :=
  { became with object := became.object.anonymous }

/-- A change does not tell the uid of the child. -/
theorem Converged.change_eq {left right : Converged kind}
    (same : left.anonymous = right.anonymous) : left.change = right.change :=
  (congrArg Converged.change same :)

/-- What becomes of a child does not depend on uids. -/
theorem anonymous_converged (owner : OwnerReference) (desired : Child kind) (uid other : String)
    (live : Option (Child kind)) :
    (converged owner desired uid live).map Converged.anonymous =
      (converged owner desired other (live.map Object.anonymous)).map Converged.anonymous := by
  cases live with
  | none =>
    rw [Option.map_none, converged, converged]
    cases desired.attachOwner owner <;> rfl
  | some live =>
    rw [Option.map_some, converged, converged]
    split
    · rfl
    · rw [anonymous_replacement]
      cases replacement owner live desired with
      | error error => rfl
      | ok child =>
        have place : Key.forWriting child.anonymous = Key.forWriting child := rfl
        simp only [Except.map, bind, Except.bind, place]
        cases Key.forWriting child <;> rfl

/-- Children that are the same but for their uids fail alike, or become the same but for the uid. -/
theorem converged_twins (owner : OwnerReference) (desired : Child kind) (uid other : String)
    {left right : Option (Child kind)}
    (same : left.map Object.anonymous = right.map Object.anonymous) :
    (∃ error, converged owner desired uid left = .error error ∧
        converged owner desired other right = .error error) ∨
      ∃ leftBecame rightBecame, converged owner desired uid left = .ok leftBecame ∧
        converged owner desired other right = .ok rightBecame ∧
        leftBecame.anonymous = rightBecame.anonymous := by
  have results := anonymous_converged owner desired uid "" left
  rw [same, ← anonymous_converged owner desired other] at results
  cases leftResult : converged owner desired uid left with
  | error error =>
    cases rightResult : converged owner desired other right with
    | error reason =>
      rw [leftResult, rightResult] at results
      cases results
      exact Or.inl ⟨error, rfl, rfl⟩
    | ok rightBecame =>
      rw [leftResult, rightResult] at results
      cases results
  | ok leftBecame =>
    cases rightResult : converged owner desired other right with
    | error reason =>
      rw [leftResult, rightResult] at results
      cases results
    | ok rightBecame =>
      rw [leftResult, rightResult] at results
      exact Or.inr ⟨leftBecame, rightBecame, rfl, rfl, Except.ok.inj results⟩

end Child

namespace MemoryStore

variable {left right : MemoryStore}

/-- A stored child without its uid. -/
def anonymous? (store : MemoryStore) (kind : ChildKind) (ns name : String) :
    Option (Child kind) :=
  (store.object? (.child kind) ns name).map Object.anonymous

/-- Whether two stores are the same for a pass over the parent in a place, with children in the
given places. -/
structure Twins (parent : Key) (children : List Key) (left right : MemoryStore) : Prop where
  parent : left.document? parent = right.document? parent
  children : ∀ kind ns name, ⟨.child kind, ns, name⟩ ∈ children →
    left.anonymous? kind ns name = right.anonymous? kind ns name
  listed : ∀ key : Key, key.kind = .pod ∨ key.kind = .storageClass →
    left.document? key = right.document? key

namespace Twins

variable {parent : Key} {children : List Key}

/-- Stores with the same documents in the places that a pass reads are twins. -/
theorem of_documents (same : ∀ key : Key, key = parent ∨ key ∈ children ∨ key.kind = .pod ∨
    key.kind = .storageClass → left.document? key = right.document? key) :
    Twins parent children left right where
  parent := same parent (Or.inl rfl)
  children kind ns name member := by
    rw [anonymous?, anonymous?, object?, object?, same _ (Or.inr (Or.inl member))]
  listed key isListed := same key (Or.inr (Or.inr isListed))

/-- Whether stores are twins depends on their objects alone. -/
theorem of_objects {leftAfter rightAfter : MemoryStore} (twins : Twins parent children left right)
    (leftObjects : leftAfter.objects = left.objects)
    (rightObjects : rightAfter.objects = right.objects) :
    Twins parent children leftAfter rightAfter where
  parent := by
    rw [document?, document?, leftObjects, rightObjects]
    exact twins.parent
  children kind ns name member := by
    rw [anonymous?, anonymous?, object?, object?, document?, document?, leftObjects, rightObjects]
    exact twins.children kind ns name member
  listed key isListed := by
    rw [document?, document?, leftObjects, rightObjects]
    exact twins.listed key isListed

theorem pods (twins : Twins parent children left right) (ns : String) (labels : LabelMap) :
    left.pods ns labels = right.pods ns labels := by
  rw [MemoryStore.pods, MemoryStore.pods]
  rw [documentsWhere_congr fun key isPod => twins.listed key (Or.inl isPod)]

theorem storageClasses (twins : Twins parent children left right) :
    left.storageClasses = right.storageClasses := by
  rw [MemoryStore.storageClasses, MemoryStore.storageClasses]
  rw [documentsWhere_congr fun key isClass => twins.listed key (Or.inr isClass)]

/-- Twins stay so if the same child, but for its uid, is put into both. -/
theorem put_child (twins : Twins parent children left right) {childKind : ChildKind}
    (notChild : parent.kind ≠ .child childKind) {ns name : String}
    {leftChild rightChild : Child childKind} (same : leftChild.anonymous = rightChild.anonymous) :
    Twins parent children (left.put ns name leftChild) (right.put ns name rightChild) where
  parent := by
    have apart : parent ≠ ⟨.child childKind, ns, name⟩ :=
      fun here => notChild (congrArg Key.kind here)
    rw [document?_put, document?_put, if_neg apart, if_neg apart, twins.parent]
  children otherKind otherNs otherName member := by
    rw [anonymous?, anonymous?]
    by_cases here : (⟨.child otherKind, otherNs, otherName⟩ : Key) = ⟨.child childKind, ns, name⟩
    · cases here
      rw [object?_put_self, object?_put_self, Option.map_some, Option.map_some, same]
    · rw [object?_put_of_ne _ _ here, object?_put_of_ne _ _ here]
      exact twins.children otherKind otherNs otherName member
  listed key isListed := by
    have apart : key ≠ ⟨.child childKind, ns, name⟩ := by
      rintro rfl
      simp at isListed
    rw [document?_put, document?_put, if_neg apart, if_neg apart, twins.listed key isListed]

/-- Twins stay so if the same parent is put into both. -/
theorem put_parent {parentKind : ParentKind} {ns name : String}
    (twins : Twins ⟨.parent parentKind, ns, name⟩ children left right)
    (object : Object (.parent parentKind)) :
    Twins ⟨.parent parentKind, ns, name⟩ children (left.put ns name object)
      (right.put ns name object) where
  parent := by rw [document?_put, document?_put, if_pos rfl, if_pos rfl]
  children otherKind otherNs otherName member := by
    rw [anonymous?, anonymous?, object?_put_of_ne _ _ (by simp), object?_put_of_ne _ _ (by simp)]
    exact twins.children otherKind otherNs otherName member
  listed key isListed := by
    have apart : key ≠ ⟨.parent parentKind, ns, name⟩ := by
      rintro rfl
      simp at isListed
    rw [document?_put, document?_put, if_neg apart, if_neg apart, twins.listed key isListed]

/-- A child of twins is missing in both, or is there in both and may have another uid in each. -/
theorem document?_child (twins : Twins parent children left right) (leftWellFormed : left.WellFormed)
    (rightWellFormed : right.WellFormed) {kind : ChildKind} {ns name : String}
    (member : ⟨.child kind, ns, name⟩ ∈ children) :
    left.document? ⟨.child kind, ns, name⟩ = none ∧ right.document? ⟨.child kind, ns, name⟩ = none ∨
      ∃ (child : Child kind) (uid other : String),
        left.document? ⟨.child kind, ns, name⟩ = some (child.withUid uid).encode ∧
        right.document? ⟨.child kind, ns, name⟩ = some (child.withUid other).encode := by
  have same := twins.children kind ns name member
  rw [anonymous?, anonymous?] at same
  cases found : left.object? (.child kind) ns name with
  | none =>
    rw [found, Option.map_none] at same
    exact Or.inl ⟨(object?_eq_none_iff leftWellFormed).mp found,
      (object?_eq_none_iff rightWellFormed).mp (Option.map_eq_none_iff.mp same.symm)⟩
  | some child =>
    rw [found, Option.map_some] at same
    obtain ⟨other, there, anonymous⟩ := Option.map_eq_some_iff.mp same.symm
    have given := (isStored_of_object? leftWellFormed found).uid
    have otherGiven := (isStored_of_object? rightWellFormed there).uid
    refine Or.inr ⟨child, child.uidD, other.uidD, ?_, ?_⟩
    · rw [Object.withUid_uidD given]
      exact (object?_eq_some_iff leftWellFormed).mp found
    · rw [← Object.eq_withUid anonymous.symm otherGiven]
      exact (object?_eq_some_iff rightWellFormed).mp there

end Twins

end MemoryStore

end Caretaker
