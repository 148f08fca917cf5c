import Caretaker.Proofs.Store.Writing

/-!
# Versions grow

Unless a version is at the end of its word (`MemoryStore.Bounded`), answering a request removes no
document, and replaces one only under a higher version number (`MemoryStore.grows_answer`).  So a
document that has the version text of an earlier one in the same place is that document.
-/

namespace Caretaker

/-- Reading a printed number that fits into a word gives it back. -/
theorem versionNumber_toString {number : Nat} (small : number < wordSize) :
    versionNumber (toString number) = number := by
  have chars : (toString number).toList = Nat.toDigits 10 number := Nat.toList_repr
  have digits : ∀ char ∈ Nat.toDigits 10 number, char.isDigit = true := fun char member =>
    Nat.isDigit_of_mem_toDigits (by decide) (by decide) member
  have noSign : ∀ rest, Nat.toDigits 10 number ≠ '+' :: rest := by
    intro rest same
    have plus := digits '+' (same ▸ List.mem_cons_self)
    revert plus
    decide
  have value : Digit.decimal (Nat.toDigits 10 number) = number := by
    rw [← chars, Digit.decimal_toList_toString]
  have notEmpty : (Nat.toDigits 10 number).isEmpty = false := by
    rw [List.isEmpty_eq_false_iff]
    exact Nat.toDigits_ne_nil
  have all : (Nat.toDigits 10 number).all Char.isDigit = true := List.all_eq_true.mpr digits
  have same : versionNumber (toString number) =
      if (Nat.toDigits 10 number).isEmpty || !(Nat.toDigits 10 number).all Char.isDigit then 0
      else if Digit.decimal (Nat.toDigits 10 number) < wordSize then
        Digit.decimal (Nat.toDigits 10 number) else 0 := by
    rw [versionNumber, chars]
    split
    case h_1 rest same => exact absurd same (noSign rest)
    case h_2 => rfl
  rw [same, notEmpty, all, value, if_pos small]
  rfl

/-- The number of the version of a document. -/
def StoredDocument.number (document : Json) : Nat := versionNumber (version document)

theorem StoredDocument.number_encode {kind : Kind} (object : Object kind) :
    number object.encode = versionNumber object.versionD := by
  rw [number, version_encode]

/-- The next version has a higher number. -/
theorem StoredDocument.number_lt_of_nextVersion {kind : Kind} {object stored : Object kind}
    (next : object.versionD = nextVersion stored.versionD)
    (small : number stored.encode + 1 < wordSize) :
    number stored.encode < number object.encode := by
  rw [number_encode] at small
  rw [number_encode, number_encode, next, nextVersion, Nat.mod_eq_of_lt small,
    versionNumber_toString small]
  exact Nat.lt_succ_self _

namespace MemoryStore

variable {store after : MemoryStore}

/-- Whether no version of a store is at the end of its word. -/
def Bounded (store : MemoryStore) : Prop :=
  ∀ key document, store.document? key = some document →
    StoredDocument.number document + 1 < wordSize

instance (store : MemoryStore) : Decidable store.Bounded :=
  decidable_of_iff (∀ entry ∈ store.objects.entries, StoredDocument.number entry.2 + 1 < wordSize)
    ⟨fun small key document found => small (key, document) (Assoc.mem_of_get? found),
      fun bounded entry member =>
        bounded entry.1 entry.2 (Assoc.get?_of_mem store.objects.ascending.distinct member)⟩

/-- Whether a store has a document in a place, or one with a higher version number. -/
def HasSince (store : MemoryStore) (key : Key) (document : Json) : Prop :=
  ∃ later, store.document? key = some later ∧
    (later = document ∨ StoredDocument.number document < StoredDocument.number later)

/-- Whether a store still has every document of an earlier one, or one with a higher version number
in its place. -/
def Grows (store after : MemoryStore) : Prop :=
  ∀ key document, store.document? key = some document → after.HasSince key document

/-- What a store has had since some time, it still has when it has grown. -/
theorem HasSince.grows {key : Key} {document : Json} (since : store.HasSince key document)
    (grows : Grows store after) : after.HasSince key document := by
  obtain ⟨later, found, above⟩ := since
  obtain ⟨last, lastFound, lastAbove⟩ := grows key later found
  refine ⟨last, lastFound, ?_⟩
  rcases lastAbove with rfl | lastAbove
  · exact above
  · rcases above with rfl | above
    · exact Or.inr lastAbove
    · exact Or.inr (Nat.lt_trans above lastAbove)

/-- No document disappears. -/
theorem Grows.isSome (grows : Grows store after) {key : Key}
    (present : (store.document? key).isSome) : (after.document? key).isSome := by
  obtain ⟨document, found⟩ := Option.isSome_iff_exists.mp present
  obtain ⟨later, laterFound, -⟩ := grows key document found
  rw [laterFound]
  rfl

theorem Grows.of_objects (same : after.objects = store.objects) : Grows store after := by
  intro key document found
  exact ⟨document, by rwa [document?, same], Or.inl rfl⟩

/-- A store grows by a document under a higher version number than the one in its place, if any. -/
theorem Grows.of_insert {key : Key} {document : Json}
    (same : after.objects = store.objects.insert key document)
    (above : ∀ stored, store.document? key = some stored →
      StoredDocument.number stored < StoredDocument.number document) : Grows store after := by
  intro query stored found
  rw [HasSince, document?, same, KeyMap.get?_insert]
  split
  case isTrue here =>
    subst here
    exact ⟨document, rfl, Or.inr (above stored found)⟩
  case isFalse => exact ⟨stored, found, Or.inl rfl⟩

/-- A bounded store grows with every request. -/
theorem grows_answer (wellFormed : store.WellFormed) (bounded : store.Bounded) (request : Request) :
    Grows store (store.answer request).2 := by
  rcases answer_cases wellFormed request with same | ⟨-, kind, ns, name, object, -, wrote, follows⟩
  · exact .of_objects same
  · refine .of_insert wrote ?_
    intro document found
    obtain ⟨stored, rfl, -⟩ := wellFormed.exists_object found
    exact StoredDocument.number_lt_of_nextVersion (follows stored found).version (bounded _ _ found)

end MemoryStore

end Caretaker
