import Caretaker.Proofs.Store.Answer

/-!
# Stores that hold objects

A store is well-formed (`MemoryStore.WellFormed`) if each of its documents is the document of an
object that belongs under its key and has a uid and a version.  Insertions keep a store well-formed
(`MemoryStore.WellFormed.insert`).
-/

namespace Caretaker

/-- Whether an object belongs under a namespace and a name and is numbered as stored objects are. -/
structure Object.IsStored {kind : Kind} (object : Object kind) (ns name : String) : Prop where
  ns : object.nsD = ns
  name : object.nameD = name
  uid : object.metadata.uid.isSome
  version : object.metadata.resourceVersion.isSome

theorem Object.IsStored.place {kind : Kind} {object : Object kind} {ns name : String}
    (stored : object.IsStored ns name) : Key.ofObject object = ⟨kind, ns, name⟩ := by
  rw [Key.ofObject, stored.ns, stored.name]

namespace MemoryStore

/-- Whether every document of a store is that of an object that belongs there. -/
def WellFormed (store : MemoryStore) : Prop :=
  ∀ key document, store.document? key = some document →
    ∃ object : Object key.kind, document = object.encode ∧ object.IsStored key.ns key.name

/-- The stores that came about by insertions and by answering requests. -/
inductive Reachable : MemoryStore → Prop where
  | empty : Reachable {}
  | insert {store : MemoryStore} {kind : Kind} (reachable : Reachable store)
      (object : Object kind) : Reachable (store.insert object)
  | answer {store : MemoryStore} (reachable : Reachable store) (request : Request) :
      Reachable (store.answer request).2
  | failOn {store : MemoryStore} (reachable : Reachable store) (verb : Verb) (kind : Kind) :
      Reachable (store.failOn verb kind)
  | clearCalls {store : MemoryStore} (reachable : Reachable store) : Reachable store.clearCalls

variable {store : MemoryStore}

theorem WellFormed.exists_object {kind : Kind} {ns name : String} {document : Json}
    (wellFormed : store.WellFormed) (found : store.document? ⟨kind, ns, name⟩ = some document) :
    ∃ object : Object kind, document = object.encode ∧ object.IsStored ns name :=
  wellFormed _ _ found

theorem WellFormed.of_objects {other : MemoryStore} (wellFormed : store.WellFormed)
    (same : other.objects = store.objects) : other.WellFormed := by
  intro key document found
  rw [document?, same] at found
  exact wellFormed key document found

/-- Putting an object into its place keeps a store well-formed. -/
theorem WellFormed.put {other : MemoryStore} {kind : Kind} {object : Object kind}
    {ns name : String} (wellFormed : store.WellFormed) (stored : object.IsStored ns name)
    (same : other.objects = store.objects.insert ⟨kind, ns, name⟩ object.encode) :
    other.WellFormed := by
  intro key document found
  rw [document?, same, KeyMap.get?_insert] at found
  split at found
  case isTrue here =>
    cases here
    cases found
    exact ⟨object, rfl, stored⟩
  case isFalse => exact wellFormed key document found

theorem WellFormed.insert (wellFormed : store.WellFormed) {kind : Kind} (object : Object kind) :
    (store.insert object).WellFormed := by
  obtain ⟨stored, written, ns, name, uid, version⟩ :=
    StoredDocument.defaultMetadataText_encode object ("uid-" ++ toString (store.assigned + 1)) "1"
  refine wellFormed.put ⟨ns, name, by rw [uid]; rfl, version⟩ ?_
  rw [← written]
  rfl

end MemoryStore

end Caretaker
