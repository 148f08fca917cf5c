import Caretaker.Ownership

/-!
# Owners and controllers

Whether an object takes an owner, and which references it has afterwards, depends on its references
alone (`Object.attachOwner_eq`): it refuses exactly if one of them names another controller
(`Object.IsForeign`), and an owner that controls it is its only controller from then on
(`Object.isControlledBy_iff_of_attachOwner`).  An object that took an owner takes it again without
any change (`Object.attachOwner_again`).
-/

namespace Caretaker

/-- References take an owner exactly if none of them is to another controller. -/
theorem attachReference_eq_ok_iff {references after : List OwnerReference}
    {owner : OwnerReference} :
    attachReference references owner = .ok after ↔
      (∀ reference ∈ references, reference.isController = true → reference.uid = owner.uid) ∧
        references.filter (fun reference => reference.uid ≠ owner.uid) ++ [owner] = after := by
  have free : foreignController? references owner = none ↔
      ∀ reference ∈ references, reference.isController = true → reference.uid = owner.uid := by
    simp [foreignController?, List.find?_eq_none]
  rw [attachReference, ← free]
  cases foreignController? references owner <;> simp

/-- References that took an owner take it again and stay as they are. -/
theorem attachReference_again {references after : List OwnerReference} {owner : OwnerReference}
    (attached : attachReference references owner = .ok after) :
    attachReference after owner = .ok after := by
  obtain ⟨free, rfl⟩ := attachReference_eq_ok_iff.mp attached
  refine attachReference_eq_ok_iff.mpr ⟨fun reference member controls => ?_, ?_⟩
  · rcases List.mem_append.mp member with old | new
    · exact free reference (List.mem_filter.mp old).1 controls
    · rw [List.mem_singleton.mp new]
  · simp [List.filter_append, List.filter_filter]

/-- References that took a controller have one reference to it, which is the only one to a
controller. -/
theorem filter_attachReference {references after : List OwnerReference} {owner : OwnerReference}
    (controls : owner.isController = true)
    (attached : attachReference references owner = .ok after) :
    after.filter (fun reference => reference.uid = owner.uid) = [owner] ∧
      after.filter OwnerReference.isController = [owner] := by
  obtain ⟨free, rfl⟩ := attachReference_eq_ok_iff.mp attached
  constructor
  · simp [List.filter_append, List.filter_filter]
  · have noOther : (references.filter fun reference => reference.uid ≠ owner.uid).filter
        OwnerReference.isController = [] := by
      rw [List.filter_filter, List.filter_eq_nil_iff]
      intro reference member both
      simp only [Bool.and_eq_true, decide_eq_true_eq] at both
      exact both.2 (free reference member both.1)
    rw [List.filter_append, noOther, List.nil_append]
    simp [controls]

namespace Object

variable {kind : Kind}

theorem uid_of_controllerReference {object : Object kind} {owner : OwnerReference}
    (owns : object.controllerReference = .ok owner) : object.metadata.uid = some owner.uid := by
  rw [controllerReference] at owns
  split at owns
  · next given =>
    cases owns
    exact given
  · cases owns

theorem name_of_controllerReference {object : Object kind} {owner : OwnerReference}
    (owns : object.controllerReference = .ok owner) : object.metadata.name = some owner.name := by
  rw [controllerReference] at owns
  split at owns
  · next given _ =>
    cases owns
    exact given
  · cases owns

theorem kind_of_controllerReference {object : Object kind} {owner : OwnerReference}
    (owns : object.controllerReference = .ok owner) : owner.kind = kind.name := by
  rw [controllerReference] at owns
  split at owns
  · cases owns
    rfl
  · cases owns

theorem isController_of_controllerReference {object : Object kind} {owner : OwnerReference}
    (owns : object.controllerReference = .ok owner) : owner.isController = true := by
  rw [controllerReference] at owns
  split at owns
  · cases owns
    rfl
  · cases owns

/-- The object with the given references to its owners. -/
def withOwners (object : Object kind) (references : List OwnerReference) : Object kind :=
  { object with metadata := { object.metadata with ownerReferences := some references } }

theorem attachOwner_eq (object : Object kind) (owner : OwnerReference) :
    object.attachOwner owner =
      (attachReference object.ownerReferences owner).map object.withOwners := by
  unfold attachOwner
  cases attachReference object.ownerReferences owner <;> rfl

theorem attachOwner_eq_ok {object owned : Object kind} {owner : OwnerReference} :
    object.attachOwner owner = .ok owned ↔
      ∃ references, attachReference object.ownerReferences owner = .ok references ∧
        object.withOwners references = owned := by
  rw [attachOwner_eq]
  cases attachReference object.ownerReferences owner with
  | error error => simp [Except.map]
  | ok references => simp [Except.map]

/-- Whether a reference of an object names a controller other than the owner with the given uid. -/
structure IsForeign (object : Object kind) (uid : String) (reference : OwnerReference) : Prop where
  member : reference ∈ object.ownerReferences
  controls : reference.isController = true
  foreign : reference.uid ≠ uid

/-- An object that does not take an owner names another controller. -/
theorem exists_isForeign_of_attachOwner {object : Object kind} {owner : OwnerReference}
    {error : Error} (refused : object.attachOwner owner = .error error) :
    ∃ reference, object.IsForeign owner.uid reference ∧
      error = .foreignController reference.kind reference.name := by
  rw [attachOwner_eq, attachReference] at refused
  split at refused
  · next other found =>
    cases refused
    have foreign := List.find?_some found
    simp only [Bool.and_eq_true, decide_eq_true_eq] at foreign
    exact ⟨other, ⟨List.mem_of_find?_eq_some found, foreign.1, foreign.2⟩, rfl⟩
  · cases refused

/-- An object that names another controller does not take an owner. -/
theorem IsForeign.exists_refused {object : Object kind} {owner : OwnerReference}
    {reference : OwnerReference} (foreign : object.IsForeign owner.uid reference) :
    ∃ error, object.attachOwner owner = .error error := by
  obtain ⟨member, controls, apart⟩ := foreign
  rw [attachOwner_eq, attachReference]
  split
  · exact ⟨_, rfl⟩
  · next none =>
    have free := List.find?_eq_none.mp none reference member
    simp [controls, apart] at free

/-- Whether an object has a controller with the given uid. -/
def IsControlledBy (object : Object kind) (uid : String) : Prop :=
  ∃ reference ∈ object.ownerReferences, reference.isController = true ∧ reference.uid = uid

instance (object : Object kind) (uid : String) : Decidable (object.IsControlledBy uid) :=
  inferInstanceAs (Decidable (∃ reference ∈ object.ownerReferences, _ ∧ _))

/-- A controller of an object is foreign to whoever does not control it. -/
theorem IsControlledBy.exists_isForeign {object : Object kind} {uid other : String}
    (controlled : object.IsControlledBy uid) (outside : ¬object.IsControlledBy other) :
    ∃ reference, object.IsForeign other reference := by
  obtain ⟨reference, member, controls, rfl⟩ := controlled
  exact ⟨reference, member, controls, fun same => outside ⟨reference, member, controls, same⟩⟩

/-- An object takes no owner but its controller. -/
theorem IsControlledBy.eq_of_attachOwner {object owned : Object kind} {owner : OwnerReference}
    {uid : String} (controlled : object.IsControlledBy uid)
    (took : object.attachOwner owner = .ok owned) : uid = owner.uid := by
  obtain ⟨reference, member, controls, rfl⟩ := controlled
  refine Decidable.byContradiction fun apart => ?_
  have foreign : object.IsForeign owner.uid reference := ⟨member, controls, apart⟩
  obtain ⟨error, refused⟩ := foreign.exists_refused
  cases took.symm.trans refused

/-- An object that took a controller has no other one. -/
theorem isControlledBy_iff_of_attachOwner {object owned : Object kind} {owner : OwnerReference}
    (controls : owner.isController = true) (took : object.attachOwner owner = .ok owned)
    (uid : String) : owned.IsControlledBy uid ↔ uid = owner.uid := by
  obtain ⟨references, attached, rfl⟩ := attachOwner_eq_ok.mp took
  have only := (filter_attachReference controls attached).2
  have isController (reference : OwnerReference) :
      reference ∈ references ∧ reference.isController = true ↔ reference = owner := by
    rw [← List.mem_filter, only, List.mem_singleton]
  constructor
  · rintro ⟨reference, member, controller, rfl⟩
    rw [(isController reference).mp ⟨member, controller⟩]
  · rintro rfl
    obtain ⟨member, controller⟩ := (isController owner).mpr rfl
    exact ⟨owner, member, controller, rfl⟩

/-- An object that took an owner takes it again and stays as it is. -/
theorem attachOwner_again {object owned : Object kind} {owner : OwnerReference}
    (attached : object.attachOwner owner = .ok owned) : owned.attachOwner owner = .ok owned := by
  obtain ⟨references, took, rfl⟩ := attachOwner_eq_ok.mp attached
  exact attachOwner_eq_ok.mpr ⟨references, attachReference_again took, rfl⟩

end Object

end Caretaker
