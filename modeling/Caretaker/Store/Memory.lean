import Caretaker.Json.Path
import Caretaker.Store.Key
import Caretaker.Store.Program

/-!
# A store in memory

The store keeps objects as documents under their kind, namespace and name.  It records every call
and can be told to fail the calls of a verb on a kind.  A new object gets a fresh uid; an update
must not carry an older version than the stored one, keeps uid and status, and counts the version
up; a status update replaces nothing but the status.
-/

namespace Caretaker

/-- A recorded call. -/
structure Call where
  verb : Verb
  kind : Kind
  name : String
  deriving DecidableEq, Repr

/-- The documents of a store, in the order of their places. -/
abbrev Objects := KeyMap Key Json

/-- A store in memory. -/
structure MemoryStore where
  objects : Objects := ∅
  calls : List Call := []
  failures : List (Verb × Kind) := []
  assigned : Nat := 0
  deriving Inhabited

/-- The number that a version text stands for: decimal digits after an optional plus sign, below
`wordSize`; any other text counts as zero. -/
def versionNumber (version : String) : Nat :=
  let digits := match version.toList with
    | '+' :: rest => rest
    | chars => chars
  if digits.isEmpty || !digits.all Char.isDigit then 0
  else
    let value := Digit.decimal digits
    if value < wordSize then value else 0

namespace StoredDocument

/-- The member of the metadata of a document. -/
def metadataField? (document : Json) (name : String) : Option Json :=
  document.at? ["metadata", name]

/-- The document with a text in its metadata. -/
def setMetadataText (document : Json) (name value : String) : Json :=
  document.set "metadata" (((document.get? "metadata").getD .null).set name (.text value))

/-- The document with a text in its metadata, unless the metadata has that member. -/
def defaultMetadataText (document : Json) (name value : String) : Json :=
  if (metadataField? document name).isSome then document else setMetadataText document name value

/-- The version text of a document. -/
def version (document : Json) : String :=
  ((metadataField? document "resourceVersion").bind Json.text?).getD ""

/-- The uid text of a document. -/
def uid (document : Json) : String := ((metadataField? document "uid").bind Json.text?).getD ""

/-- The document with its version counted up; after the last number of 64 bits comes zero. -/
def bumpVersion (document : Json) : Json :=
  setMetadataText document "resourceVersion"
    (toString ((versionNumber (version document) + 1) % wordSize))

/-- Whether the labels of a document contain every given pair. -/
def hasLabels (document : Json) (labels : LabelMap) : Bool :=
  labels.all fun name value =>
    (document.at? ["metadata", "labels", name]) = some (.text value)

/-- The document with the status of another one, or without a status if that has none. -/
def withStatusOf (document other : Json) : Json :=
  match other.get? "status" with
  | some status => document.set "status" status
  | none => document.erase "status"

end StoredDocument

namespace MemoryStore

/-- The document under a key. -/
def document? (store : MemoryStore) (key : Key) : Option Json := store.objects.get? key

/-- The stored object of a kind, a namespace and a name, if it can be read. -/
def object? (store : MemoryStore) (kind : Kind) (ns name : String) : Option (Object kind) :=
  (store.document? ⟨kind, ns, name⟩).bind (Object.decode? kind)

/-- The store with an object put into it, in no call; it gets a uid and a version unless it has
them. -/
def insert {kind : Kind} (store : MemoryStore) (object : Object kind) : MemoryStore :=
  let assigned := store.assigned + 1
  let named := StoredDocument.defaultMetadataText object.encode "uid" ("uid-" ++ toString assigned)
  let document := StoredDocument.defaultMetadataText named "resourceVersion" "1"
  { store with
    objects := store.objects.insert (Key.ofObject object) document
    assigned := assigned }

/-- The store in which the calls of a verb on a kind fail. -/
def failOn (store : MemoryStore) (verb : Verb) (kind : Kind) : MemoryStore :=
  { store with failures := store.failures ++ [(verb, kind)] }

/-- The number of recorded calls of a verb on a kind. -/
def count (store : MemoryStore) (verb : Verb) (kind : Kind) : Nat :=
  store.calls.countP fun call => call.verb = verb && call.kind = kind

/-- The number of recorded writes. -/
def writes (store : MemoryStore) : Nat := store.calls.countP fun call => call.verb.isWrite

/-- The store without recorded calls. -/
def clearCalls (store : MemoryStore) : MemoryStore := { store with calls := [] }

/-- Record a call, and fail it if it is to fail. -/
def record (store : MemoryStore) (verb : Verb) (kind : Kind) (name : String) :
    Except Error Unit × MemoryStore :=
  let store := { store with calls := store.calls ++ [⟨verb, kind, name⟩] }
  if store.failures.contains (verb, kind) then (.error (.injected verb kind name), store)
  else (.ok (), store)

/-- Read the object that a document holds. -/
def read (kind : Kind) (document : Json) : Except Error (Object kind) :=
  match Object.decode? kind document with
  | some object => .ok object
  | none => .error .serialization

/-- Read one object. -/
def get (store : MemoryStore) (kind : Kind) (ns name : String) :
    Except Error (Object kind) × MemoryStore :=
  match store.record .get kind name with
  | (.error error, store) => (.error error, store)
  | (.ok (), store) =>
    match store.document? ⟨kind, ns, name⟩ with
    | none => (.error (.notFound kind ns name), store)
    | some document => (read kind document, store)

/-- The documents of a kind whose place satisfies a test, in the order of their places. -/
def documentsWhere (store : MemoryStore) (kind : Kind) (test : String → Json → Bool) : List Json :=
  (store.objects.filter fun key document => key.kind = kind && test key.ns document).values

/-- Read the objects of a kind in a namespace that carry the given labels. -/
def list (store : MemoryStore) (kind : Kind) (ns : String) (labels : LabelMap) :
    Except Error (List (Object kind)) × MemoryStore :=
  match store.record .list kind "" with
  | (.error error, store) => (.error error, store)
  | (.ok (), store) =>
    ((store.documentsWhere kind fun placeNs document =>
      placeNs = ns && StoredDocument.hasLabels document labels).mapM (read kind), store)

/-- Read the storage classes of the cluster. -/
def listStorageClasses (store : MemoryStore) : Except Error (List StorageClass) × MemoryStore :=
  match store.record .list .storageClass "" with
  | (.error error, store) => (.error error, store)
  | (.ok (), store) =>
    ((store.documentsWhere .storageClass fun _ _ => true).mapM (read .storageClass), store)

/-- Write a new object; it gets a fresh uid and the first version. -/
def create {kind : Kind} (store : MemoryStore) (object : Object kind) :
    Except Error (Object kind) × MemoryStore :=
  match Key.forWriting object with
  | .error error => (.error error, store)
  | .ok key =>
    match store.record .create kind key.name with
    | (.error error, store) => (.error error, store)
    | (.ok (), store) =>
      if (store.document? key).isSome then (.error (.alreadyExists kind key.name), store)
      else
        let assigned := store.assigned + 1
        let named :=
          StoredDocument.setMetadataText object.encode "uid" ("uid-" ++ toString assigned)
        let document := StoredDocument.setMetadataText named "resourceVersion" "1"
        (read kind document,
          { store with
            objects := store.objects.insert key document
            assigned := assigned })

/-- The document that an update stores: the sent one with uid, version and status of the stored one,
its version counted up. -/
def updated (sent stored : Json) : Json :=
  let named := StoredDocument.setMetadataText sent "uid" (StoredDocument.uid stored)
  let versioned :=
    StoredDocument.setMetadataText named "resourceVersion" (StoredDocument.version stored)
  StoredDocument.bumpVersion (StoredDocument.withStatusOf versioned stored)

/-- Whether an object carries another version than a stored document. -/
def isStale {kind : Kind} (object : Object kind) (stored : Json) : Bool :=
  object.metadata.resourceVersion.any fun sent => sent ≠ StoredDocument.version stored

/-- Replace an object. -/
def update {kind : Kind} (store : MemoryStore) (object : Object kind) :
    Except Error (Object kind) × MemoryStore :=
  match Key.forWriting object with
  | .error error => (.error error, store)
  | .ok key =>
    match store.record .update kind key.name with
    | (.error error, store) => (.error error, store)
    | (.ok (), store) =>
      match store.document? key with
      | none => (.error (.notFound kind key.ns key.name), store)
      | some stored =>
        if isStale object stored then (.error (.conflict kind key.name), store)
        else
          let document := updated object.encode stored
          (read kind document, { store with objects := store.objects.insert key document })

/-- The document that a status update stores: the stored one with the sent status, if one is sent,
its version counted up. -/
def statusUpdated (sent stored : Json) : Json :=
  StoredDocument.bumpVersion <|
    match sent.get? "status" with
    | some status => stored.set "status" status
    | none => stored

/-- Replace the status of an object. -/
def updateStatus {kind : Kind} (store : MemoryStore) (object : Object kind) :
    Except Error (Object kind) × MemoryStore :=
  match Key.forWriting object with
  | .error error => (.error error, store)
  | .ok key =>
    match store.record .updateStatus kind key.name with
    | (.error error, store) => (.error error, store)
    | (.ok (), store) =>
      match store.document? key with
      | none => (.error (.notFound kind key.ns key.name), store)
      | some stored =>
        let document := statusUpdated object.encode stored
        (read kind document, { store with objects := store.objects.insert key document })

/-- Answer a request. -/
def answer (store : MemoryStore) : (request : Request) → Except Error request.Answer × MemoryStore
  | .get kind ns name => store.get kind ns name
  | .list kind ns labels => store.list kind ns labels
  | .listStorageClasses => store.listStorageClasses
  | .create _ object => store.create object
  | .update _ object => store.update object
  | .updateStatus _ object => store.updateStatus object

/-- Run a program over a store. -/
def run {α : Type} (store : MemoryStore) (program : Program α) : Except Error α × MemoryStore :=
  program.run answer store

end MemoryStore

end Caretaker
