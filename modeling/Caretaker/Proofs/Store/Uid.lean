import Caretaker.Proofs.Store.Object
import Caretaker.Text.Digit

/-!
# Uids

No request changes the uid of an object that is there (`MemoryStore.keepsUids_answer`), and so no
program does (`MemoryStore.keepsUids_run`).  As long as objects are put into a store without a uid of
their own, the store gives every object a uid that no other one has (`MemoryStore.Numbered`).
-/

namespace Caretaker

/-- The uid of a number. -/
def uidText (number : Nat) : String := "uid-" ++ toString number

theorem uidText_injective {left right : Nat} (same : uidText left = uidText right) :
    left = right := by
  have texts : (toString left).toList = (toString right).toList := by
    have chars := congrArg String.toList same
    rw [uidText, uidText, String.toList_append, String.toList_append] at chars
    exact List.append_cancel_left chars
  rw [← Digit.decimal_toList_toString left, texts, Digit.decimal_toList_toString]

namespace MemoryStore

variable {store between after : MemoryStore}

/-- Whether every document of a store is still in its place, or another one with its uid. -/
def KeepsUids (store after : MemoryStore) : Prop :=
  ∀ key document, store.document? key = some document →
    ∃ later, after.document? key = some later ∧
      StoredDocument.uid later = StoredDocument.uid document

namespace KeepsUids

theorem of_objects (same : after.objects = store.objects) : KeepsUids store after := by
  intro key document found
  exact ⟨document, by rwa [document?, same], rfl⟩

theorem trans (first : KeepsUids store between) (second : KeepsUids between after) :
    KeepsUids store after := by
  intro key document found
  obtain ⟨middle, there, same⟩ := first key document found
  obtain ⟨later, laterThere, laterSame⟩ := second key middle there
  exact ⟨later, laterThere, laterSame.trans same⟩

end KeepsUids

/-- A request keeps the uids of what is there. -/
theorem keepsUids_answer (wellFormed : store.WellFormed) (request : Request) :
    KeepsUids store (store.answer request).2 := by
  rcases answer_cases wellFormed request with
    same | ⟨-, kind, ns, name, object, -, wrote, follows⟩
  · exact .of_objects same
  · intro key document found
    rw [document?, wrote]
    show ∃ later, (store.put ns name object).document? key = some later ∧ _
    rw [document?_put]
    split
    case isTrue here =>
      subst here
      obtain ⟨earlier, rfl, -⟩ := wellFormed.exists_object found
      refine ⟨_, rfl, ?_⟩
      rw [StoredDocument.uid_encode, StoredDocument.uid_encode, (follows earlier found).uid]
    case isFalse => exact ⟨document, found, rfl⟩

/-- A program keeps the uids of what is there. -/
theorem keepsUids_run {α : Type} (wellFormed : store.WellFormed) (program : Program α) :
    KeepsUids store (store.run program).2 :=
  wellFormed.run_preserves (KeepsUids store)
    (fun _ wellFormed keeps request => keeps.trans (keepsUids_answer wellFormed request)) program
    (.of_objects rfl)

/-- Whether the uids of a store are those of numbers that it has counted, each in one place. -/
structure Numbered (store : MemoryStore) : Prop where
  counted : ∀ key document, store.document? key = some document →
    ∃ number ≤ store.assigned, StoredDocument.uid document = uidText number
  distinct : ∀ left right leftDocument rightDocument,
    store.document? left = some leftDocument → store.document? right = some rightDocument →
    StoredDocument.uid leftDocument = StoredDocument.uid rightDocument → left = right

namespace Numbered

theorem empty : Numbered {} :=
  ⟨fun _ _ found => (nomatch found), fun _ _ _ _ found => nomatch found⟩

theorem of_objects (numbered : store.Numbered) (objects : after.objects = store.objects)
    (assigned : after.assigned = store.assigned) : after.Numbered := by
  have same (key : Key) : after.document? key = store.document? key := by
    rw [document?, objects, document?]
  constructor
  · intro key document found
    rw [same] at found
    rw [assigned]
    exact numbered.counted key document found
  · intro left right leftDocument rightDocument leftFound rightFound
    rw [same] at leftFound rightFound
    exact numbered.distinct left right leftDocument rightDocument leftFound rightFound

/-- A document with the next uid may go anywhere. -/
theorem put_next (numbered : store.Numbered) {key : Key} {document : Json}
    (objects : after.objects = store.objects.insert key document)
    (assigned : after.assigned = store.assigned + 1)
    (uid : StoredDocument.uid document = store.nextUid) : after.Numbered := by
  have found (query : Key) :
      after.document? query = if query = key then some document else store.document? query := by
    rw [document?, objects, KeyMap.get?_insert, document?]
  -- No document that is there has the next uid.
  have fresh {query : Key} {other : Json} (there : store.document? query = some other) :
      StoredDocument.uid other ≠ StoredDocument.uid document := by
    obtain ⟨number, small, same⟩ := numbered.counted query other there
    intro clash
    have next := uidText_injective (same.symm.trans (clash.trans uid))
    omega
  constructor
  · intro query other there
    rw [found] at there
    split at there
    · cases there
      exact ⟨store.assigned + 1, Nat.le_of_eq assigned.symm, uid⟩
    · obtain ⟨number, small, same⟩ := numbered.counted query other there
      exact ⟨number, by omega, same⟩
  · intro left right leftDocument rightDocument leftThere rightThere same
    rw [found] at leftThere rightThere
    split at leftThere <;> split at rightThere
    case isTrue.isTrue left right => exact left.trans right.symm
    case isTrue.isFalse =>
      cases leftThere
      exact absurd same.symm (fresh rightThere)
    case isFalse.isTrue =>
      cases rightThere
      exact absurd same (fresh leftThere)
    case isFalse.isFalse => exact numbered.distinct _ _ _ _ leftThere rightThere same

/-- A document may be replaced by one with its uid. -/
theorem put_again (numbered : store.Numbered) {key : Key} {document earlier : Json}
    (objects : after.objects = store.objects.insert key document)
    (assigned : after.assigned = store.assigned) (there : store.document? key = some earlier)
    (uid : StoredDocument.uid document = StoredDocument.uid earlier) : after.Numbered := by
  -- Every document has the uid of the one that was in its place.
  have before {query : Key} {other : Json} (found : after.document? query = some other) :
      ∃ old, store.document? query = some old ∧
        StoredDocument.uid other = StoredDocument.uid old := by
    rw [document?, objects, KeyMap.get?_insert] at found
    split at found
    case isTrue here =>
      cases found
      exact ⟨earlier, here ▸ there, uid⟩
    case isFalse => exact ⟨other, found, rfl⟩
  constructor
  · intro query other found
    obtain ⟨old, oldFound, same⟩ := before found
    rw [same, assigned]
    exact numbered.counted query old oldFound
  · intro left right leftDocument rightDocument leftFound rightFound same
    obtain ⟨oldLeft, oldLeftFound, leftSame⟩ := before leftFound
    obtain ⟨oldRight, oldRightFound, rightSame⟩ := before rightFound
    exact numbered.distinct left right oldLeft oldRight oldLeftFound oldRightFound
      (leftSame.symm.trans (same.trans rightSame))

/-- An object without a uid gets the next one when it is put into a store. -/
theorem insert (numbered : store.Numbered) {kind : Kind} {object : Object kind}
    (unnumbered : object.metadata.uid = none) : (store.insert object).Numbered := by
  obtain ⟨stored, written, -, -, uid, -⟩ :=
    StoredDocument.defaultMetadataText_encode object store.nextUid "1"
  have objects : (store.insert object).objects =
      store.objects.insert (Key.ofObject object) stored.encode := by
    rw [← written]
    rfl
  refine numbered.put_next objects rfl ?_
  rw [StoredDocument.uid_encode, Object.uidD, uid, unnumbered]
  rfl

theorem accepting (numbered : store.Numbered) {kind : Kind} {ns name : String}
    {writing : Writing} {sent stored : Object kind}
    (accepted : Accepted store ns name sent writing stored) :
    (store.accepting writing ns name stored).Numbered := by
  cases accepted with
  | create absent => exact numbered.put_next rfl rfl (StoredDocument.uid_encode _)
  | update found takes =>
    refine numbered.put_again rfl rfl found ?_
    rw [StoredDocument.uid_encode, StoredDocument.uid_encode]
    rfl
  | updateStatus found takes =>
    refine numbered.put_again rfl rfl found ?_
    rw [StoredDocument.uid_encode, StoredDocument.uid_encode]
    rfl

theorem write (numbered : store.Numbered) (wellFormed : store.WellFormed) {kind : Kind}
    (writing : Writing) (sent : Object kind) : (store.write writing sent).2.Numbered := by
  rcases write_cases wellFormed writing sent with
    ⟨error, refused⟩ | ⟨ns, name, stored, -, -, accepted, wrote⟩
  · rw [write_of_refused refused]
    exact numbered.of_objects rfl rfl
  · rw [wrote]
    exact numbered.accepting accepted

/-- A request leaves every object a uid of its own. -/
theorem answer (numbered : store.Numbered) (wellFormed : store.WellFormed) (request : Request) :
    (store.answer request).2.Numbered := by
  rcases request.reads_or_writes with reads | ⟨kind, writing, object, rfl⟩
  · obtain ⟨name, called⟩ := store.exists_answer_eq_called reads
    rw [called]
    exact numbered.of_objects rfl rfl
  · have wrote := numbered.write wellFormed writing object
    cases writing <;> exact wrote

theorem run {α : Type} (numbered : store.Numbered) (wellFormed : store.WellFormed)
    (program : Program α) : (store.run program).2.Numbered :=
  wellFormed.run_preserves Numbered
    (fun _ wellFormed numbered request => numbered.answer wellFormed request) program numbered

end Numbered

end MemoryStore

end Caretaker
