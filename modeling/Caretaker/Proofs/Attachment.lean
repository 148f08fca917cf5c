import Caretaker.Proofs.Ownership
import Mathlib.Data.List.Induction

/-!
# Owners attached in turn

An object that takes an owner refers to it once and last, and to all others as before (`Attached`).
An object that is offered several owners in turn takes some and refuses the others
(`Object.offerAll`, `Object.taken`).  What it refers to afterwards is, for every uid among the
owners that it took, the last of them (`Object.offerAll_records_taken`).
-/

namespace Caretaker

/-- What the references of an object are after it took an owner: one to the owner, which is the last
one, and those to others as they were. -/
structure Attached (owner : OwnerReference) (before after : List OwnerReference) : Prop where
  self : after.filter (fun reference => reference.uid = owner.uid) = [owner]
  last : after.getLast? = some owner
  others : after.filter (fun reference => reference.uid ≠ owner.uid) =
    before.filter fun reference => reference.uid ≠ owner.uid

section References

variable {owner : OwnerReference} {before after : List OwnerReference}

theorem attached_of_attachReference (took : attachReference before owner = .ok after) :
    Attached owner before after := by
  obtain ⟨-, rfl⟩ := attachReference_eq_ok_iff.mp took
  exact ⟨by simp [List.filter_append, List.filter_filter], List.getLast?_concat, by
    simp [List.filter_append, List.filter_filter]⟩

/-- References that a test tells apart from the owner are as they were. -/
theorem Attached.filter_eq (attached : Attached owner before after) {test : OwnerReference → Bool}
    (apart : ∀ reference, test reference = true → reference.uid ≠ owner.uid) :
    after.filter test = before.filter test := by
  have within (references : List OwnerReference) : references.filter test =
      (references.filter fun reference => reference.uid ≠ owner.uid).filter test := by
    rw [List.filter_filter]
    refine List.filter_congr fun reference _ => ?_
    cases tested : test reference with
    | false => rfl
    | true => simp [apart reference tested]
  rw [within after, attached.others, ← within]

/-- The only controller among references that took an owner is the owner, if it is one. -/
theorem countP_attachReference (took : attachReference before owner = .ok after) :
    after.countP OwnerReference.isController = if owner.isController then 1 else 0 := by
  obtain ⟨free, rfl⟩ := attachReference_eq_ok_iff.mp took
  have noOther : (before.filter fun reference => reference.uid ≠ owner.uid).countP
      OwnerReference.isController = 0 := by
    refine List.countP_eq_zero.mpr fun reference member controls => ?_
    obtain ⟨old, apart⟩ := List.mem_filter.mp member
    exact of_decide_eq_true apart (free reference old controls)
  rw [List.countP_append, noOther, List.countP_singleton, Nat.zero_add]

end References

/-- What the references of an object are after it took owners in turn: for every uid among them the
last of them, and those to others as they were. -/
structure Records (taken before after : List OwnerReference) : Prop where
  latest : ∀ owner ∈ taken, ∃ last,
    (taken.filter fun other => other.uid = owner.uid).getLast? = some last ∧
      after.filter (fun reference => reference.uid = owner.uid) = [last]
  others : after.filter (fun reference => reference.uid ∉ taken.map (·.uid)) =
    before.filter fun reference => reference.uid ∉ taken.map (·.uid)

/-- An owner that is taken last is recorded besides those that were taken before it. -/
theorem Records.concat {taken before between after : List OwnerReference} {owner : OwnerReference}
    (records : Records taken before between) (attached : Attached owner between after) :
    Records (taken ++ [owner]) before after := by
  constructor
  case latest =>
    intro other member
    by_cases same : other.uid = owner.uid
    · refine ⟨owner, ?_, same ▸ attached.self⟩
      simp [List.filter_append, same]
    · have earlier : other ∈ taken := by
        rcases List.mem_append.mp member with old | new
        · exact old
        · exact absurd (congrArg (·.uid) (List.mem_singleton.mp new)) same
      obtain ⟨last, isLast, only⟩ := records.latest other earlier
      refine ⟨last, ?_, ?_⟩
      · simpa [List.filter_append, Ne.symm same] using isLast
      · refine (attached.filter_eq fun reference isOther => ?_).trans only
        rw [of_decide_eq_true isOther]
        exact same
  case others =>
    have within (references : List OwnerReference) :
        references.filter (fun reference => reference.uid ∉ (taken ++ [owner]).map (·.uid)) =
          (references.filter fun reference => reference.uid ∉ taken.map (·.uid)).filter
            fun reference => reference.uid ≠ owner.uid := by
      rw [List.filter_filter]
      refine List.filter_congr fun reference _ => ?_
      by_cases same : reference.uid = owner.uid <;> simp [same]
    rw [attached.filter_eq fun reference isOther same => by simp [same] at isOther,
      within between, records.others, ← within]

namespace Object

variable {kind : Kind}

/-- An object after it was offered an owner: it takes it, or it refuses it and stays as it is. -/
def offer (object : Object kind) (owner : OwnerReference) : Object kind :=
  match object.attachOwner owner with
  | .ok owned => owned
  | .error _ => object

/-- An object after it was offered owners in turn. -/
def offerAll (object : Object kind) (owners : List OwnerReference) : Object kind :=
  owners.foldl offer object

/-- The owners that an object takes of those that it is offered in turn. -/
def taken (object : Object kind) : List OwnerReference → List OwnerReference
  | [] => []
  | owner :: later =>
    match object.attachOwner owner with
    | .ok owned => owner :: owned.taken later
    | .error _ => object.taken later

theorem offerAll_append (object : Object kind) (before later : List OwnerReference) :
    object.offerAll (before ++ later) = (object.offerAll before).offerAll later :=
  List.foldl_append ..

/-- An object takes of later owners what it takes of them after it was offered those before. -/
theorem taken_append (object : Object kind) (before later : List OwnerReference) :
    object.taken (before ++ later) =
      object.taken before ++ (object.offerAll before).taken later := by
  induction before generalizing object with
  | nil => rfl
  | cons owner before ih =>
    rw [List.cons_append, taken, taken, offerAll, List.foldl_cons, offer]
    cases object.attachOwner owner with
    | ok owned => exact congrArg (owner :: ·) (ih owned)
    | error error => exact ih object

section Step

variable {object owned : Object kind} {owner : OwnerReference}

/-- An object takes an owner exactly if none of its references is to another controller. -/
theorem exists_attachOwner_iff : (∃ owned, object.attachOwner owner = .ok owned) ↔
    ∀ reference ∈ object.ownerReferences,
      reference.isController = true → reference.uid = owner.uid := by
  constructor
  · rintro ⟨owned, took⟩
    obtain ⟨references, attached, -⟩ := attachOwner_eq_ok.mp took
    exact (attachReference_eq_ok_iff.mp attached).1
  · intro free
    exact ⟨_, attachOwner_eq_ok.mpr ⟨_, attachReference_eq_ok_iff.mpr ⟨free, rfl⟩, rfl⟩⟩

/-- An object that took an owner has no controller but that owner, and refers to it last. -/
theorem attached_of_attachOwner (took : object.attachOwner owner = .ok owned) :
    owned.ownerReferences.countP OwnerReference.isController =
        (if owner.isController then 1 else 0) ∧
      Attached owner object.ownerReferences owned.ownerReferences := by
  obtain ⟨references, attached, rfl⟩ := attachOwner_eq_ok.mp took
  exact ⟨countP_attachReference attached, attached_of_attachReference attached⟩

end Step

section Offers

variable {object : Object kind} {owners : List OwnerReference} {owner : OwnerReference}

/-- An owner that is taken after others. -/
theorem offerAll_concat_of_ok {owned : Object kind}
    (took : (object.offerAll owners).attachOwner owner = .ok owned) :
    object.offerAll (owners ++ [owner]) = owned ∧
      object.taken (owners ++ [owner]) = object.taken owners ++ [owner] := by
  rw [offerAll_append, taken_append, taken, took]
  refine ⟨?_, rfl⟩
  show (object.offerAll owners).offer owner = _
  rw [offer, took]

/-- An owner that is refused after others were offered. -/
theorem offerAll_concat_of_error {error : Error}
    (refused : (object.offerAll owners).attachOwner owner = .error error) :
    object.offerAll (owners ++ [owner]) = object.offerAll owners ∧
      object.taken (owners ++ [owner]) = object.taken owners := by
  rw [offerAll_append, taken_append, taken, refused]
  refine ⟨?_, List.append_nil _⟩
  show (object.offerAll owners).offer owner = _
  rw [offer, refused]

end Offers

/-- What holds after an object was offered owners: its references record those that it took, and it
takes the last of these again without any change. -/
structure Settled (object : Object kind) (owners : List OwnerReference) : Prop where
  records : Records (object.taken owners) object.ownerReferences
    (object.offerAll owners).ownerReferences
  again : ∀ owner, (object.taken owners).getLast? = some owner →
    (object.offerAll owners).attachOwner owner = .ok (object.offerAll owners)

/-- One more owner is offered. -/
theorem Settled.concat {object : Object kind} {owners : List OwnerReference}
    (settled : object.Settled owners) (owner : OwnerReference) :
    object.Settled (owners ++ [owner]) := by
  cases answered : (object.offerAll owners).attachOwner owner with
  | error error =>
    obtain ⟨sameObject, sameOwners⟩ := offerAll_concat_of_error answered
    constructor
    · rw [sameObject, sameOwners]
      exact settled.records
    · rw [sameObject, sameOwners]
      exact settled.again
  | ok owned =>
    obtain ⟨isOwned, oneMore⟩ := offerAll_concat_of_ok answered
    constructor
    · rw [isOwned, oneMore]
      exact settled.records.concat (attached_of_attachOwner answered).2
    · intro last isLast
      rw [oneMore, List.getLast?_concat] at isLast
      cases isLast
      rw [isOwned]
      exact attachOwner_again answered

theorem settled (object : Object kind) (owners : List OwnerReference) : object.Settled owners := by
  induction owners using List.reverseRecOn with
  | nil =>
    exact ⟨⟨fun _ member => absurd member List.not_mem_nil, rfl⟩, fun _ isLast => nomatch isLast⟩
  | append_singleton owners owner ih => exact ih.concat owner

/-- Whichever owners an object was offered, it takes the next one exactly if it refers to no other
controller.  Then that owner is the only controller, if it is one, and referred to once and last;
else the object stays as it is.  In the end the references record the owners that were taken, and
the last of these is taken again without any change. -/
theorem offerAll_records_taken (object : Object kind) (owners : List OwnerReference) :
    (∀ owner,
      ((∃ owned, (object.offerAll owners).attachOwner owner = .ok owned) ↔
        ∀ reference ∈ (object.offerAll owners).ownerReferences,
          reference.isController = true → reference.uid = owner.uid) ∧
      (∀ owned, (object.offerAll owners).attachOwner owner = .ok owned →
        (object.offerAll (owners ++ [owner]) = owned ∧
          object.taken (owners ++ [owner]) = object.taken owners ++ [owner]) ∧
        owned.ownerReferences.countP OwnerReference.isController =
          (if owner.isController then 1 else 0) ∧
        Attached owner (object.offerAll owners).ownerReferences owned.ownerReferences) ∧
      ∀ error, (object.offerAll owners).attachOwner owner = .error error →
        object.offerAll (owners ++ [owner]) = object.offerAll owners ∧
          object.taken (owners ++ [owner]) = object.taken owners) ∧
    Records (object.taken owners) object.ownerReferences
      (object.offerAll owners).ownerReferences ∧
    ∀ owner, (object.taken owners).getLast? = some owner →
      (object.offerAll owners).attachOwner owner = .ok (object.offerAll owners) := by
  refine ⟨fun owner => ⟨exists_attachOwner_iff, fun owned took => ?_, fun error refused => ?_⟩,
    (settled object owners).records, (settled object owners).again⟩
  · exact ⟨offerAll_concat_of_ok took, attached_of_attachOwner took⟩
  · exact offerAll_concat_of_error refused

end Object

end Caretaker
