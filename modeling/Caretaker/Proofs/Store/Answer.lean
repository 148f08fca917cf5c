import Caretaker.Proofs.Store.Document

/-!
# What a store answers

Each request is recorded, then fails if calls like it are to fail, and else is answered from the
documents of the store.  The equations below say so request by request; a write that does not name
its place is refused before it is recorded.
-/

namespace Caretaker

theorem Object.key_of_some {kind : Kind} {object : Object kind} {ns name : String}
    (nsGiven : object.metadata.ns = some ns) (nameGiven : object.metadata.name = some name) :
    Key.ofObject object = ⟨kind, ns, name⟩ := by
  rw [Key.ofObject, Object.nsD, Object.nameD, nsGiven, nameGiven, Option.getD_some, Option.getD_some]

namespace Key

theorem forWriting_eq_ok {kind : Kind} {object : Object kind} {key : Key} :
    forWriting object = .ok key ↔
      object.metadata.ns = some key.ns ∧ object.metadata.name = some key.name ∧
        key.kind = kind := by
  obtain ⟨keyKind, keyNs, keyName⟩ := key
  rw [forWriting]
  cases object.metadata.ns with
  | none => simp [bind, Except.bind]
  | some ns =>
    cases object.metadata.name with
    | none => simp [bind, Except.bind]
    | some name => simp [bind, Except.bind, pure, Except.pure, eq_comm, and_comm, and_assoc]

theorem forWriting_of_some {kind : Kind} {object : Object kind} {ns name : String}
    (nsGiven : object.metadata.ns = some ns) (nameGiven : object.metadata.name = some name) :
    forWriting object = .ok ⟨kind, ns, name⟩ :=
  forWriting_eq_ok.mpr ⟨nsGiven, nameGiven, rfl⟩

theorem exists_of_forWriting {kind : Kind} {object : Object kind} {key : Key}
    (writable : forWriting object = .ok key) :
    ∃ ns name, key = ⟨kind, ns, name⟩ ∧ object.metadata.ns = some ns ∧
      object.metadata.name = some name := by
  obtain ⟨ns, name, rfl⟩ := forWriting_eq_ok.mp writable
  exact ⟨_, _, rfl, ns, name⟩

/-- The place that an object is written to is its place. -/
theorem ofObject_of_forWriting {kind : Kind} {object : Object kind} {key : Key}
    (writable : forWriting object = .ok key) : ofObject object = key := by
  obtain ⟨ns, name, rfl, nsGiven, nameGiven⟩ := exists_of_forWriting writable
  exact Object.key_of_some nsGiven nameGiven

/-- An object whose place is not named in full is refused for a missing field. -/
theorem isNotFound_of_forWriting {kind : Kind} {object : Object kind} {error : Error}
    (refused : forWriting object = .error error) : error.isNotFound = false := by
  rw [forWriting] at refused
  cases nsGiven : object.metadata.ns with
  | none =>
    rw [nsGiven] at refused
    cases refused
    rfl
  | some ns =>
    cases nameGiven : object.metadata.name with
    | none =>
      rw [nsGiven, nameGiven] at refused
      cases refused
      rfl
    | some name =>
      rw [nsGiven, nameGiven] at refused
      cases refused

end Key

namespace MemoryStore

variable {kind : Kind}

/-- The store with one more recorded call. -/
def called (store : MemoryStore) (verb : Verb) (kind : Kind) (name : String) : MemoryStore :=
  { store with calls := store.calls ++ [⟨verb, kind, name⟩] }

/-- Whether the calls of a verb on a kind fail. -/
def fails (store : MemoryStore) (verb : Verb) (kind : Kind) : Bool :=
  store.failures.contains (verb, kind)

/-- The store with an object under a namespace and a name. -/
def put (store : MemoryStore) (ns name : String) (object : Object kind) : MemoryStore :=
  { store with objects := store.objects.insert ⟨kind, ns, name⟩ object.encode }

theorem document?_put (store : MemoryStore) (ns name : String) (object : Object kind) (key : Key) :
    (store.put ns name object).document? key =
      if key = ⟨kind, ns, name⟩ then some object.encode else store.document? key :=
  KeyMap.get?_insert _ _ _ _

/-- The uid that the next object gets. -/
def nextUid (store : MemoryStore) : String := "uid-" ++ toString (store.assigned + 1)

theorem read_encode (object : Object kind) : read kind object.encode = .ok object := by
  rw [read, Object.decode?_encode]

theorem record_eq (store : MemoryStore) (verb : Verb) (kind : Kind) (name : String) :
    store.record verb kind name =
      (if store.fails verb kind then .error (.injected verb kind name) else .ok (),
        store.called verb kind name) := by
  rw [record]
  split
  case isTrue failing => rw [if_pos (show store.fails verb kind = true from failing)]; rfl
  case isFalse running => rw [if_neg (show ¬store.fails verb kind = true from running)]; rfl

theorem get_eq (store : MemoryStore) (kind : Kind) (ns name : String) :
    store.get kind ns name =
      (if store.fails .get kind then .error (.injected .get kind name)
        else match store.document? ⟨kind, ns, name⟩ with
          | none => .error (.notFound kind ns name)
          | some document => read kind document,
        store.called .get kind name) := by
  rw [get, record_eq]
  by_cases failing : store.fails .get kind = true
  · simp [failing]
  · have same : (store.called .get kind name).document? ⟨kind, ns, name⟩ =
        store.document? ⟨kind, ns, name⟩ := rfl
    simp only [failing, Bool.false_eq_true, if_false, same]
    cases store.document? ⟨kind, ns, name⟩ <;> rfl

theorem list_eq (store : MemoryStore) (kind : Kind) (ns : String) (labels : LabelMap) :
    store.list kind ns labels =
      (if store.fails .list kind then .error (.injected .list kind "")
        else (store.documentsWhere kind fun placeNs document =>
          placeNs = ns && StoredDocument.hasLabels document labels).mapM (read kind),
        store.called .list kind "") := by
  rw [list, record_eq]
  by_cases failing : store.fails .list kind = true
  · simp [failing]
  · simp only [failing, Bool.false_eq_true, if_false]
    rfl

theorem listStorageClasses_eq (store : MemoryStore) :
    store.listStorageClasses =
      (if store.fails .list .storageClass then .error (.injected .list .storageClass "")
        else (store.documentsWhere .storageClass fun _ _ => true).mapM (read .storageClass),
        store.called .list .storageClass "") := by
  rw [listStorageClasses, record_eq]
  by_cases failing : store.fails .list .storageClass = true
  · simp [failing]
  · simp only [failing, Bool.false_eq_true, if_false]
    rfl

theorem create_eq (store : MemoryStore) {object : Object kind} {ns name : String}
    (writable : Key.forWriting object = .ok ⟨kind, ns, name⟩) :
    store.create object =
      if store.fails .create kind then
        (.error (.injected .create kind name), store.called .create kind name)
      else if (store.document? ⟨kind, ns, name⟩).isSome then
        (.error (.alreadyExists kind name), store.called .create kind name)
      else
        (.ok (object.numbered store.nextUid),
          { (store.called .create kind name).put ns name (object.numbered store.nextUid) with
            assigned := store.assigned + 1 }) := by
  have written : StoredDocument.setMetadataText
      (StoredDocument.setMetadataText object.encode "uid" store.nextUid) "resourceVersion" "1" =
        (object.numbered store.nextUid).encode := by
    rw [StoredDocument.setMetadataText_uid, StoredDocument.setMetadataText_resourceVersion]
    rfl
  rw [create, writable]
  simp only [record_eq]
  by_cases failing : store.fails .create kind = true
  · simp [failing]
  · have same : (store.called .create kind name).document? ⟨kind, ns, name⟩ =
        store.document? ⟨kind, ns, name⟩ := rfl
    have assigned : (store.called .create kind name).assigned = store.assigned := rfl
    simp only [failing, Bool.false_eq_true, if_false, same, assigned]
    split
    · rfl
    · rw [nextUid] at written ⊢
      rw [written, read_encode]
      rfl

theorem update_eq (store : MemoryStore) {object : Object kind} {ns name : String}
    (writable : Key.forWriting object = .ok ⟨kind, ns, name⟩) :
    store.update object =
      if store.fails .update kind then
        (.error (.injected .update kind name), store.called .update kind name)
      else match store.document? ⟨kind, ns, name⟩ with
        | none => (.error (.notFound kind ns name), store.called .update kind name)
        | some stored =>
          if isStale object stored then
            (.error (.conflict kind name), store.called .update kind name)
          else
            (read kind (updated object.encode stored),
              { store.called .update kind name with
                objects := store.objects.insert ⟨kind, ns, name⟩
                  (updated object.encode stored) }) := by
  rw [update, writable]
  simp only [record_eq]
  by_cases failing : store.fails .update kind = true
  · simp [failing]
  · have same : (store.called .update kind name).document? ⟨kind, ns, name⟩ =
        store.document? ⟨kind, ns, name⟩ := rfl
    simp only [failing, Bool.false_eq_true, if_false, same]
    rfl

theorem updateStatus_eq (store : MemoryStore) {object : Object kind} {ns name : String}
    (writable : Key.forWriting object = .ok ⟨kind, ns, name⟩) :
    store.updateStatus object =
      if store.fails .updateStatus kind then
        (.error (.injected .updateStatus kind name), store.called .updateStatus kind name)
      else match store.document? ⟨kind, ns, name⟩ with
        | none => (.error (.notFound kind ns name), store.called .updateStatus kind name)
        | some stored =>
          (read kind (statusUpdated object.encode stored),
            { store.called .updateStatus kind name with
              objects := store.objects.insert ⟨kind, ns, name⟩
                (statusUpdated object.encode stored) }) := by
  rw [updateStatus, writable]
  simp only [record_eq]
  by_cases failing : store.fails .updateStatus kind = true
  · simp [failing]
  · have same : (store.called .updateStatus kind name).document? ⟨kind, ns, name⟩ =
        store.document? ⟨kind, ns, name⟩ := rfl
    simp only [failing, Bool.false_eq_true, if_false, same]
    rfl

theorem create_of_refused {store : MemoryStore} {object : Object kind} {error : Error}
    (refused : Key.forWriting object = .error error) :
    store.create object = (.error error, store) := by
  rw [create, refused]

theorem update_of_refused {store : MemoryStore} {object : Object kind} {error : Error}
    (refused : Key.forWriting object = .error error) :
    store.update object = (.error error, store) := by
  rw [update, refused]

theorem updateStatus_of_refused {store : MemoryStore} {object : Object kind} {error : Error}
    (refused : Key.forWriting object = .error error) :
    store.updateStatus object = (.error error, store) := by
  rw [updateStatus, refused]

end MemoryStore

end Caretaker
