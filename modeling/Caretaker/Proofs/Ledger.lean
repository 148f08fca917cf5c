import Mathlib.Logic.Function.Basic
import Caretaker.Pass
import Caretaker.Proofs.Store.Listing
import Caretaker.Proofs.Store.Uid

/-!
# Whatever is done to a store

Objects are put into a store, requests are made of it, passes run over it, and its calls may be told
to fail (`Operation`).  A ledger keeps what was answered to the last successful write in every place
(`Ledger`).  After any operations, the documents of the store are those of objects that belong in
their places, and looking them up, listing them and the ledger all agree
(`Ledger.after_operations`).
-/

namespace Caretaker

/-- What can be done to a store. -/
inductive Operation where
  /-- Put an object into the store, in no call. -/
  | insert (kind : Kind) (object : Object kind)
  /-- Make a request. -/
  | request (request : Request)
  /-- Run a pass over a parent. -/
  | pass (surroundings : Surroundings) (kind : ParentKind) (ns name : String)
  /-- Let the calls of a verb on a kind fail. -/
  | failOn (verb : Verb) (kind : Kind)
  /-- Forget the recorded calls. -/
  | clearCalls

/-- The answers to the last successful writes, by place. -/
abbrev Answers := (key : Key) → Option (Object key.kind)

namespace Answers

/-- The answers after one to a write of an object: if that succeeds, it counts in its place. -/
def noted {kind : Kind} (answers : Answers) (sent : Object kind) :
    Except Error (Object kind) → Answers
  | .ok reply => Function.update answers (Key.ofObject sent) (some reply)
  | .error _ => answers

/-- The answers after one more. -/
def noting (answers : Answers) : (request : Request) → Except Error request.Answer → Answers
  | .create _ sent, reply | .update _ sent, reply | .updateStatus _ sent, reply =>
    answers.noted sent reply
  | .get .., _ | .list .., _ | .listStorageClasses, _ => answers

/-- Whether a store holds the last answer of each place. -/
def Current (answers : Answers) (store : MemoryStore) : Prop :=
  ∀ key object, answers key = some object → store.document? key = some object.encode

namespace Current

variable {answers : Answers} {store after : MemoryStore} {kind : Kind}

theorem of_objects (current : answers.Current store) (same : after.objects = store.objects) :
    answers.Current after := by
  intro key object told
  rw [MemoryStore.document?, same]
  exact current key object told

theorem put (current : answers.Current store) {sent object : Object kind}
    (objects : after.objects = store.objects.insert (Key.ofObject sent) object.encode) :
    Current (Function.update answers (Key.ofObject sent) (some object)) after := by
  intro key query told
  rw [MemoryStore.document?, objects, KeyMap.get?_insert]
  split
  case isTrue here =>
    subst here
    rw [Function.update_self] at told
    cases told
    rfl
  case isFalse apart =>
    rw [Function.update_of_ne apart] at told
    exact current key query told

/-- What was answered in a place before another object was put there does not count. -/
theorem insert (current : answers.Current store) (object : Object kind) :
    Current (Function.update answers (Key.ofObject object) none) (store.insert object) := by
  intro key query told
  by_cases here : key = Key.ofObject object
  · subst here
    rw [Function.update_self] at told
    cases told
  · rw [Function.update_of_ne here] at told
    refine Eq.trans ?_ (current key query told)
    exact (KeyMap.get?_insert _ _ _ _).trans (if_neg here)

theorem write (current : answers.Current store) (wellFormed : store.WellFormed)
    (writing : Writing) (sent : Object kind) :
    (answers.noted sent (store.write writing sent).1).Current (store.write writing sent).2 := by
  rcases store.write_cases wellFormed writing sent with
    ⟨error, refused⟩ | ⟨ns, name, stored, nsGiven, nameGiven, -, wrote⟩
  · rw [MemoryStore.write_of_refused refused]
    exact current.of_objects rfl
  · rw [wrote]
    refine current.put ?_
    rw [Object.key_of_some nsGiven nameGiven]
    rfl

/-- The last answers stay current when a request is answered. -/
theorem answer (current : answers.Current store) (wellFormed : store.WellFormed)
    (request : Request) :
    (answers.noting request (store.answer request).1).Current (store.answer request).2 := by
  have ofRead (reads : request.verb.isWrite = false) : answers.Current (store.answer request).2 := by
    obtain ⟨name, called⟩ := store.exists_answer_eq_called reads
    rw [called]
    exact current.of_objects rfl
  cases request with
  | get | list | listStorageClasses => exact ofRead rfl
  | create kind sent => exact current.write wellFormed .create sent
  | update kind sent => exact current.write wellFormed .update sent
  | updateStatus kind sent => exact current.write wellFormed .updateStatus sent

end Current

end Answers

/-- A store, and what was answered to the last successful write in each place since another object
was put there. -/
structure Ledger where
  store : MemoryStore := {}
  answers : Answers := fun _ => none

namespace Ledger

/-- Answer a request, and note the answer. -/
def answer (ledger : Ledger) (request : Request) : Except Error request.Answer × Ledger :=
  let reply := ledger.store.answer request
  (reply.1, ⟨reply.2, ledger.answers.noting request reply.1⟩)

/-- The ledger after an operation. -/
def step (ledger : Ledger) : Operation → Ledger
  | .insert _ object =>
    ⟨ledger.store.insert object, Function.update ledger.answers (Key.ofObject object) none⟩
  | .request request => (ledger.answer request).2
  | .pass surroundings kind ns name => ((pass surroundings kind ns name).run answer ledger).2
  | .failOn verb kind => { ledger with store := ledger.store.failOn verb kind }
  | .clearCalls => { ledger with store := ledger.store.clearCalls }

/-- The ledger after operations, which begin with an empty store. -/
def after (operations : List Operation) : Ledger := operations.foldl step {}

/-- Keeping a ledger makes no difference to a program. -/
theorem run_eq {α : Type} (program : Program α) (ledger : Ledger) :
    (program.run answer ledger).1 = (ledger.store.run program).1 ∧
      (program.run answer ledger).2.store = (ledger.store.run program).2 := by
  induction program generalizing ledger with
  | done => exact ⟨rfl, rfl⟩
  | ask request next ih => exact ih _ _

/-- Whether a ledger has a well-formed store and its last answers. -/
structure Sound (ledger : Ledger) : Prop where
  wellFormed : ledger.store.WellFormed
  current : ledger.answers.Current ledger.store

namespace Sound

variable {ledger : Ledger}

theorem answer (sound : ledger.Sound) (request : Request) : (ledger.answer request).2.Sound :=
  ⟨sound.wellFormed.answer request, sound.current.answer sound.wellFormed request⟩

theorem run {α : Type} (sound : ledger.Sound) (program : Program α) :
    (program.run Ledger.answer ledger).2.Sound :=
  program.run_preserves Sound (fun _ request sound => sound.answer request) sound

theorem step (sound : ledger.Sound) (operation : Operation) : (ledger.step operation).Sound := by
  cases operation with
  | insert kind object => exact ⟨sound.wellFormed.insert object, sound.current.insert object⟩
  | request request => exact sound.answer request
  | pass surroundings kind ns name => exact sound.run _
  | failOn verb kind => exact ⟨sound.wellFormed, sound.current⟩
  | clearCalls => exact ⟨sound.wellFormed, sound.current⟩

theorem foldl (sound : ledger.Sound) (operations : List Operation) :
    (operations.foldl Ledger.step ledger).Sound := by
  induction operations generalizing ledger with
  | nil => exact sound
  | cons operation rest ih => exact ih (sound.step operation)

end Sound

/-- A ledger begins without answers. -/
theorem sound_empty : Sound {} where
  wellFormed := MemoryStore.Reachable.empty.wellFormed
  current key object told := by cases told

end Ledger

/-- Whether an operation puts in no object that has a uid already. -/
def Operation.Unnumbered : Operation → Prop
  | .insert _ object => object.metadata.uid = none
  | .request _ | .pass .. | .failOn .. | .clearCalls => True

namespace MemoryStore.Numbered

variable {ledger : Ledger}

theorem step (numbered : ledger.store.Numbered) (sound : ledger.Sound) {operation : Operation}
    (unnumbered : operation.Unnumbered) : (ledger.step operation).store.Numbered := by
  cases operation with
  | insert kind object => exact numbered.insert unnumbered
  | request request => exact numbered.answer sound.wellFormed request
  | pass surroundings kind ns name =>
    have ran := numbered.run sound.wellFormed (pass surroundings kind ns name)
    rwa [← (Ledger.run_eq _ ledger).2] at ran
  | failOn verb kind => exact numbered.of_objects rfl rfl
  | clearCalls => exact numbered.of_objects rfl rfl

theorem foldl (numbered : ledger.store.Numbered) (sound : ledger.Sound)
    {operations : List Operation} (unnumbered : ∀ operation ∈ operations, operation.Unnumbered) :
    (operations.foldl Ledger.step ledger).store.Numbered := by
  induction operations generalizing ledger with
  | nil => exact numbered
  | cons operation rest ih =>
    obtain ⟨first, others⟩ := List.forall_mem_cons.mp unnumbered
    exact ih (numbered.step sound first) (sound.step operation) others

end MemoryStore.Numbered

/-- Whether a document names the kind, the namespace and the name of a place, where an absent
namespace or name is empty, and has a uid and a version. -/
structure StoredDocument.IsAt (document : Json) (key : Key) : Prop where
  kind : document.get? "kind" = some (.text key.kind.name)
  ns : metadataField? document "namespace" = some (.text key.ns) ∨
    metadataField? document "namespace" = none ∧ key.ns = ""
  name : metadataField? document "name" = some (.text key.name) ∨
    metadataField? document "name" = none ∧ key.name = ""
  uid : ∃ uid, metadataField? document "uid" = some (.text uid)
  version : ∃ version, metadataField? document "resourceVersion" = some (.text version)

/-- The document of an object that belongs in a place names it. -/
theorem Object.IsStored.isAt {kind : Kind} {object : Object kind} {ns name : String}
    (stored : object.IsStored ns name) : StoredDocument.IsAt object.encode ⟨kind, ns, name⟩ := by
  have given {value : Option String} {text : String} (same : value.getD "" = text) :
      value.map Json.text = some (.text text) ∨ value.map Json.text = none ∧ text = "" := by
    cases value with
    | none => exact Or.inr ⟨rfl, same.symm⟩
    | some own => exact Or.inl (congrArg (fun text => some (Json.text text)) same)
  obtain ⟨members, written⟩ := object.exists_written
  obtain ⟨uid, hasUid⟩ := Option.isSome_iff_exists.mp stored.uid
  obtain ⟨version, hasVersion⟩ := Option.isSome_iff_exists.mp stored.version
  refine ⟨?_, ?_, ?_, ⟨uid, ?_⟩, ⟨version, ?_⟩⟩
  · rw [written.encoded]
    exact written.kindName
  · rw [StoredDocument.metadataField?_encode, Metadata.reach_namespace]
    exact given stored.ns
  · rw [StoredDocument.metadataField?_encode, Metadata.reach_name]
    exact given stored.name
  · rw [StoredDocument.metadataField?_encode, Metadata.reach_uid, hasUid]
    rfl
  · rw [StoredDocument.metadataField?_encode, Metadata.reach_resourceVersion, hasVersion]
    rfl

namespace Ledger

/-- Whether everything that can be asked about the objects of a ledger agrees: the documents in their
places, look-ups, listings, and the answers to the last writes. -/
structure Consistent (ledger : Ledger) : Prop where
  documents : ∀ key document, ledger.store.document? key = some document →
    StoredDocument.IsAt document key ∧
      ∃ object : Object key.kind, Object.decode? key.kind document = some object ∧
        object.encode = document
  get : ∀ kind ns name, ledger.store.fails .get kind = false →
    (ledger.store.get kind ns name).1 =
      match ledger.store.object? kind ns name with
      | none => .error (.notFound kind ns name)
      | some object => .ok object
  list : ∀ kind ns labels, ledger.store.fails .list kind = false →
    ∃ entries,
      ledger.store.Lists kind (fun place object => place = ns ∧ object.Carries labels) entries ∧
        (ledger.store.list kind ns labels).1 = .ok (entries.map Prod.snd)
  listStorageClasses : ledger.store.fails .list .storageClass = false →
    ∃ entries, ledger.store.Lists .storageClass (fun _ _ => True) entries ∧
      ledger.store.listStorageClasses.1 = .ok (entries.map Prod.snd)
  answers : ledger.answers.Current ledger.store

theorem Sound.consistent {ledger : Ledger} (sound : ledger.Sound) : ledger.Consistent where
  documents key document found := by
    obtain ⟨object, rfl, stored⟩ := sound.wellFormed key document found
    exact ⟨stored.isAt, object, object.decode?_encode, rfl⟩
  get kind ns name running := MemoryStore.get_of_running sound.wellFormed running ns name
  list kind ns labels running :=
    MemoryStore.exists_lists_list sound.wellFormed running ns labels
  listStorageClasses := MemoryStore.exists_lists_listStorageClasses sound.wellFormed
  answers := sound.current

/-- After any operations, everything that can be asked about the objects of a store agrees, and no
request changes the uid of an object that is there.  If no object was put in with a uid, no two
objects have the same. -/
theorem after_operations (operations : List Operation) :
    (after operations).Consistent ∧
      (∀ request : Request,
        MemoryStore.KeepsUids (after operations).store ((after operations).store.answer request).2) ∧
      ((∀ operation ∈ operations, operation.Unnumbered) →
        ∀ left right leftDocument rightDocument,
          (after operations).store.document? left = some leftDocument →
          (after operations).store.document? right = some rightDocument → left ≠ right →
          StoredDocument.uid leftDocument ≠ StoredDocument.uid rightDocument) := by
  have sound : (after operations).Sound := sound_empty.foldl operations
  refine ⟨sound.consistent, MemoryStore.keepsUids_answer sound.wellFormed, fun unnumbered => ?_⟩
  have numbered : (after operations).store.Numbered :=
    MemoryStore.Numbered.foldl .empty sound_empty unnumbered
  intro left right leftDocument rightDocument leftFound rightFound apart same
  exact apart (numbered.distinct left right leftDocument rightDocument leftFound rightFound same)

end Ledger

section Sample

/-- A service is put into a store and updated, and another one is created. -/
def sampleOperations : List Operation :=
  let service (name : String) : Child .service :=
    ⟨{ name := some name, ns := some "kube-system" }, Document.of _ (.object [])⟩
  [.insert (.child .service) (service "cache"), .failOn .updateStatus (.child .service),
    .request (.update (.child .service) (service "cache")),
    .request (.create (.child .service) (service "check")),
    .pass {} .healthService "kube-system" "sample"]

/-- The two services have different uids, and both are as the last write to them was answered. -/
theorem uids_after_sampleOperations :
    (∀ operation ∈ sampleOperations, operation.Unnumbered) ∧
      ∃ cache check : Child .service,
        (Ledger.after sampleOperations).store.document? ⟨.child .service, "kube-system", "cache"⟩ =
          some cache.encode ∧
        (Ledger.after sampleOperations).store.document? ⟨.child .service, "kube-system", "check"⟩ =
          some check.encode ∧
        StoredDocument.uid cache.encode ≠ StoredDocument.uid check.encode := by
  have unnumbered : ∀ operation ∈ sampleOperations, operation.Unnumbered := by
    simp [sampleOperations, Operation.Unnumbered]
  obtain ⟨consistent, -, distinct⟩ := Ledger.after_operations sampleOperations
  have answered (name : String) (told : ((Ledger.after sampleOperations).answers
      ⟨.child .service, "kube-system", name⟩).isSome) : ∃ service : Child .service,
      (Ledger.after sampleOperations).store.document? ⟨.child .service, "kube-system", name⟩ =
        some service.encode := by
    obtain ⟨service, told⟩ := Option.isSome_iff_exists.mp told
    exact ⟨service, consistent.answers _ service told⟩
  obtain ⟨cache, cacheFound⟩ := answered "cache" (by decide +kernel)
  obtain ⟨check, checkFound⟩ := answered "check" (by decide +kernel)
  exact ⟨unnumbered, cache, check, cacheFound, checkFound,
    distinct unnumbered _ _ _ _ cacheFound checkFound (by decide)⟩

end Sample

end Caretaker
