import Caretaker.Proofs.Pass.Obey

/-!
# The discipline of a pass

Whatever a store answers, as long as it answers about the places that it is asked for, a pass
creates only what it has just not found, updates only what it has just read, writes the status of no
object but its parent, and ends with the first failure (`pass_disciplined`).  A store in memory
answers like that (`MemoryStore.faithful_log`).
-/

namespace Caretaker

variable {kind : ParentKind}

/-- Whether an object has one reference to the owner, which is its only one to a controller. -/
def Object.IsOwnedBy {kind : Kind} (object : Object kind) (owner : OwnerReference) : Prop :=
  object.ownerReferences.filter (fun reference => reference.uid = owner.uid) = [owner] ∧
    object.ownerReferences.filter OwnerReference.isController = [owner]

/-- An object that took a parent as its owner is owned by it. -/
theorem Object.isOwnedBy_of_attachOwner {parent : Object (.parent kind)} {objectKind : Kind}
    {object owned : Object objectKind} {owner : OwnerReference}
    (owns : parent.controllerReference = .ok owner) (took : object.attachOwner owner = .ok owned) :
    owned.IsOwnedBy owner := by
  obtain ⟨references, attached, rfl⟩ := attachOwner_eq_ok.mp took
  exact filter_attachReference (isController_of_controllerReference owns) attached

/-- The discipline of a pass: what its exchanges are like, and its result. -/
structure Disciplined (surroundings : Surroundings) (kind : ParentKind) (ns name : String)
    (exchanges : List Exchange) (result : Except Error (List Change)) : Prop where
  /-- Nothing but children is created or updated. -/
  children : ∀ exchange ∈ exchanges,
    exchange.request.verb = .create ∨ exchange.request.verb = .update →
      ∃ childKind, exchange.request.kind = .child childKind
  /-- A child is created right after nothing was found in its place. -/
  create : ∀ before (childKind : ChildKind) (child : Child childKind) reply after,
    exchanges = before ++ ⟨.create (.child childKind) child, reply⟩ :: after →
      ∃ earlier childNs childName missing,
        before = earlier ++ [⟨.get (.child childKind) childNs childName, .error missing⟩] ∧
        missing.isNotFound = true ∧
        Key.forWriting child = .ok ⟨.child childKind, childNs, childName⟩
  /-- A child is updated right after it was read, by what replaces it for a child that is built from
  the parent in hand and has the same place. -/
  update : ∀ before (childKind : ChildKind) (child : Child childKind) reply after,
    exchanges = before ++ ⟨.update (.child childKind) child, reply⟩ :: after →
      ∃ earlier owner childNs childName, ∃ first parent : Object (.parent kind),
        ∃ live desired : Child childKind,
        before = earlier ++ [⟨.get (.child childKind) childNs childName, .ok live⟩] ∧
        Course ns name first owner earlier parent ∧ Wanted surroundings first parent desired ∧
        Key.forWriting desired = .ok ⟨.child childKind, childNs, childName⟩ ∧
        replacement owner live desired = .ok child ∧
        Key.ofObject child = ⟨.child childKind, childNs, childName⟩ ∧
        child.metadata.uid = live.metadata.uid ∧
        child.metadata.resourceVersion = live.metadata.resourceVersion
  /-- The status of the parent alone is written, right after pods were listed. -/
  status : ∀ before objectKind object reply after,
    exchanges = before ++ ⟨.updateStatus objectKind object, reply⟩ :: after →
      Key.ofObject object = ⟨.parent kind, ns, name⟩ ∧
      ∃ earlier labels pods, before = earlier ++ [⟨.list .pod ns labels, .ok pods⟩]
  /-- What is created or updated is owned by the parent that was read first. -/
  owned : ∀ (childKind : ChildKind) (child : Child childKind) reply,
    ⟨.create (.child childKind) child, reply⟩ ∈ exchanges ∨
        ⟨.update (.child childKind) child, reply⟩ ∈ exchanges →
      ∃ first rest owner, exchanges = ⟨.get (.parent kind) ns name, .ok first⟩ :: rest ∧
        first.metadata.uid = some owner.uid ∧ child.IsOwnedBy owner
  /-- The first failure ends the pass. -/
  ends : ∀ before exchange after error, exchanges = before ++ exchange :: after →
    exchange.failure? = some error → after = [] ∧ result = .error error

namespace Permitted

variable {surroundings : Surroundings} {ns name : String} {said : List Exchange}

/-- No request is permitted after a failure. -/
theorem not_failed {request : Request}
    (permitted : Permitted surroundings kind ns name said request) :
    ∀ exchange ∈ said, ∀ error, exchange.failure? ≠ some error := by
  intro exchange member error fails
  rcases permitted.exists_course with rfl | ⟨first, owner, parent, course⟩
  · cases member
  · exact course.not_stops exchange member error (.failed fails)

/-- A permitted creation or update is of a child. -/
theorem exists_child {request : Request}
    (permitted : Permitted surroundings kind ns name said request)
    (writes : request.verb = .create ∨ request.verb = .update) :
    ∃ childKind, request.kind = .child childKind := by
  cases permitted with
  | fetch => exact writes.elim nofun nofun
  | read _ reads =>
    rcases writes with isCreate | isUpdate
    · rw [isCreate] at reads
      cases reads
    · rw [isUpdate] at reads
      cases reads
  | @create _ _ _ _ childKind => exact ⟨childKind, rfl⟩
  | @update _ _ _ _ childKind => exact ⟨childKind, rfl⟩
  | report => exact writes.elim nofun nofun

/-- A child whose creation or update is permitted is owned by the parent that was read first. -/
theorem exists_isOwnedBy {childKind : ChildKind} {child : Child childKind} {request : Request}
    (permitted : Permitted surroundings kind ns name said request)
    (writes : request = .create (.child childKind) child ∨
      request = .update (.child childKind) child) :
    ∃ first rest owner, said = ⟨.get (.parent kind) ns name, .ok first⟩ :: rest ∧
      first.metadata.uid = some owner.uid ∧ child.IsOwnedBy owner := by
  have owned {first parent : Object (.parent kind)} {owner : OwnerReference}
      {said : List Exchange} {object child : Child childKind} (exchange : Exchange)
      (course : Course ns name first owner said parent)
      (took : object.attachOwner owner = .ok child) :
      ∃ first rest owner, said ++ [exchange] = ⟨.get (.parent kind) ns name, .ok first⟩ :: rest ∧
        first.metadata.uid = some owner.uid ∧ child.IsOwnedBy owner := by
    obtain ⟨rest, rfl⟩ := course.begins
    exact ⟨first, rest ++ [exchange], owner, rfl, Object.uid_of_controllerReference course.owns,
      Object.isOwnedBy_of_attachOwner course.owns took⟩
  rcases writes with rfl | rfl
  · cases permitted with
    | read _ reads => cases reads
    | create course _ _ _ _ took => exact owned _ course took
  · cases permitted with
    | read _ reads => cases reads
    | update course _ _ _ _ _ replaced => exact owned _ course (attachOwner_replacement replaced)

theorem of_create {childKind : ChildKind} {child : Child childKind}
    (permitted : Permitted surroundings kind ns name said (.create (.child childKind) child)) :
    ∃ earlier childNs childName missing,
      said = earlier ++ [⟨.get (.child childKind) childNs childName, .error missing⟩] ∧
      missing.isNotFound = true ∧
      Key.forWriting child = .ok ⟨.child childKind, childNs, childName⟩ := by
  cases permitted with
  | read _ reads => cases reads
  | create _ _ nsGiven nameGiven notFound took =>
    exact ⟨_, _, _, _, rfl, notFound,
      (Key.forWriting_attachOwner took).trans (Key.forWriting_of_some nsGiven nameGiven)⟩

theorem of_update {childKind : ChildKind} {child : Child childKind}
    (permitted : Permitted surroundings kind ns name said (.update (.child childKind) child)) :
    ∃ earlier owner childNs childName, ∃ first parent : Object (.parent kind),
      ∃ live desired : Child childKind,
        said = earlier ++ [⟨.get (.child childKind) childNs childName, .ok live⟩] ∧
        Course ns name first owner earlier parent ∧ Wanted surroundings first parent desired ∧
        Key.forWriting desired = .ok ⟨.child childKind, childNs, childName⟩ ∧
        replacement owner live desired = .ok child ∧
        Key.ofObject child = ⟨.child childKind, childNs, childName⟩ ∧
        child.metadata.uid = live.metadata.uid ∧
        child.metadata.resourceVersion = live.metadata.resourceVersion := by
  cases permitted with
  | read _ reads => cases reads
  | update course wanted nsGiven nameGiven _ place replaced =>
    have keeps := keeps_of_replacement replaced
    refine ⟨_, _, _, _, _, _, _, _, rfl, course, wanted, Key.forWriting_of_some nsGiven nameGiven,
      replaced, Eq.trans ?_ place, keeps.uid, keeps.version⟩
    rw [Key.ofObject, Key.ofObject, Object.nsD, Object.nameD, keeps.ns, keeps.name]
    rfl

theorem of_updateStatus {objectKind : Kind} {object : Object objectKind}
    (permitted : Permitted surroundings kind ns name said (.updateStatus objectKind object)) :
    Key.ofObject object = ⟨.parent kind, ns, name⟩ ∧
      ∃ earlier labels pods, said = earlier ++ [⟨.list .pod ns labels, .ok pods⟩] := by
  cases permitted with
  | read _ reads => cases reads
  | report course list =>
    refine ⟨Eq.trans ?_ course.place, _, _, _, rfl⟩
    rw [Key.ofObject, Object.nsD, Object.nameD, PodList.metadata_withNames]
    rfl

end Permitted

/-- A pass whose last exchange failed fails with it. -/
theorem Concluded.result_eq {ns name : String} {said before : List Exchange}
    {result : Except Error (List Change)} {exchange : Exchange} {error : Error}
    (concluded : Concluded kind ns name said result) (last : said = before ++ [exchange])
    (fails : exchange.failure? = some error) : result = .error error := by
  have fine {first parent : Object (.parent kind)} {owner : OwnerReference}
      (course : Course ns name first owner said parent) : False := by
    refine course.not_stops exchange ?_ error (.failed fails)
    rw [last]
    exact List.mem_append_right _ List.mem_cons_self
  have same {said : List Exchange} {final : Exchange}
      (last : said ++ [final] = before ++ [exchange]) : final = exchange := by
    simpa using congrArg List.getLast? last
  cases concluded with
  | @unread reason =>
    obtain rfl := same (show [] ++ [_] = before ++ [exchange] from last)
    cases notFound : reason.isNotFound with
    | true =>
      simp only [Exchange.failure?, Request.verb, notFound, decide_true, Bool.and_self,
        if_true] at fails
      cases fails
    | false =>
      simp only [Exchange.failure?, notFound, Bool.and_false, Bool.false_eq_true, if_false] at fails
      cases fails
      rfl
  | unowned =>
    obtain rfl := same (show [] ++ [_] = before ++ [exchange] from last)
    cases fails
  | failed failed =>
    cases failed with
    | alone course => exact absurd course fine
    | stopped course stops =>
      obtain rfl := same last
      cases stops with
      | failed reason =>
        cases reason.symm.trans fails
        rfl
      | refused => cases fails
  | finished course => exact absurd course fine

namespace MemoryStore

/-- A store in memory answers about the places that it is asked for. -/
theorem faithful_answer {store : MemoryStore} (wellFormed : store.WellFormed) (request : Request) :
    Exchange.Faithful ⟨request, (store.answer request).1⟩ := by
  cases request with
  | get kind ns name =>
    cases reply : (store.answer (.get kind ns name)).1 with
    | error error => trivial
    | ok object =>
      have found := document?_of_get wellFormed reply
      exact (isStored_of_object? wellFormed ((object?_eq_some_iff wellFormed).mpr found)).place
  | updateStatus kind sent =>
    cases reply : (store.answer (.updateStatus kind sent)).1 with
    | error error => trivial
    | ok object =>
      show Key.ofObject object = Key.ofObject sent
      obtain ⟨ns, name, nsGiven, nameGiven, accepted, -⟩ := accepted_of_write wellFormed
        (show (store.write .updateStatus sent).1 = .ok object from reply)
      exact (accepted.isStored wellFormed nsGiven nameGiven).place.trans
        (Object.key_of_some nsGiven nameGiven).symm
  | list => trivial
  | listStorageClasses => trivial
  | create => trivial
  | update => trivial

theorem faithful_log {α : Type} {store : MemoryStore} (wellFormed : store.WellFormed)
    (program : Program α) : ∀ exchange ∈ program.log answer store, exchange.Faithful := by
  induction program generalizing store with
  | done => exact List.forall_mem_nil _
  | ask request next ih =>
    exact List.forall_mem_cons.mpr
      ⟨faithful_answer wellFormed request, ih _ (wellFormed.answer request)⟩

end MemoryStore

/-- Every pass is disciplined, whatever state a store is in and however that and its answers depend
on what it was asked before, as long as it answers about the places that it is asked for. -/
theorem pass_disciplined {σ : Type}
    (answer : σ → (request : Request) → Except Error request.Answer × σ) (state : σ)
    (surroundings : Surroundings) (kind : ParentKind) (ns name : String)
    (faithful : ∀ exchange ∈ (pass surroundings kind ns name).log answer state, exchange.Faithful) :
    Disciplined surroundings kind ns name ((pass surroundings kind ns name).log answer state)
      ((pass surroundings kind ns name).run answer state).1 := by
  obtain ⟨concluded, permitted⟩ := (obeys_pass surroundings kind ns name).log answer state faithful
  simp only [List.nil_append] at concluded permitted
  refine ⟨fun exchange member => ?_, fun before childKind child reply after split => ?_,
    fun before childKind child reply after split => ?_,
    fun before objectKind object reply after split => ?_, fun childKind child reply member => ?_,
    fun before exchange after error split fails => ?_⟩
  · obtain ⟨before, after, split⟩ := List.append_of_mem member
    exact (permitted before exchange after split).exists_child
  · exact (permitted before _ after split).of_create
  · exact (permitted before _ after split).of_update
  · exact (permitted before _ after split).of_updateStatus
  · have owned (exchange : Exchange)
        (member : exchange ∈ (pass surroundings kind ns name).log answer state)
        (writes : exchange.request = .create (.child childKind) child ∨
          exchange.request = .update (.child childKind) child) :
        ∃ first rest owner, (pass surroundings kind ns name).log answer state =
            ⟨.get (.parent kind) ns name, .ok first⟩ :: rest ∧
          first.metadata.uid = some owner.uid ∧ child.IsOwnedBy owner := by
      obtain ⟨before, after, split⟩ := List.append_of_mem member
      obtain ⟨first, rest, owner, rfl, uid, owned⟩ :=
        (permitted before exchange after split).exists_isOwnedBy writes
      exact ⟨first, _, owner, split, uid, owned⟩
    rcases member with creates | updates
    · exact owned _ creates (Or.inl rfl)
    · exact owned _ updates (Or.inr rfl)
  · cases after with
    | nil => exact ⟨rfl, concluded.result_eq split fails⟩
    | cons next after =>
      have goesOn : (pass surroundings kind ns name).log answer state =
          (before ++ [exchange]) ++ next :: after := by
        rw [split, List.append_assoc]
        rfl
      have passed := (permitted _ next after goesOn).not_failed exchange
        (List.mem_append_right _ List.mem_cons_self)
      exact absurd fails (passed error)

/-- A pass over a store in memory that creates all of its children. -/
theorem pass_disciplined_of_two_names :
    (samplePass.log MemoryStore.answer (sampleStore "cache" "check")).countP
        (fun exchange => exchange.request.verb = .create) = 6 ∧
      Disciplined sampleSurroundings .healthService "kube-system" "sample"
        (samplePass.log MemoryStore.answer (sampleStore "cache" "check"))
        ((sampleStore "cache" "check").run samplePass).1 :=
  ⟨by decide +kernel, pass_disciplined _ _ _ _ _ _
    (MemoryStore.faithful_log (reachable_sampleStore "cache" "check").wellFormed samplePass)⟩

end Caretaker
