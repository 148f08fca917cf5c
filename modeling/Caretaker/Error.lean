import Caretaker.Kind

/-!
# Errors

Why a step fails.  `Error.message` is the text of an error; the texts that a reader, a server or the
file system would add are not part of it.
-/

namespace Caretaker

/-- What a caller asks a store to do. -/
inductive Verb where
  | get
  | list
  | create
  | update
  | updateStatus
  deriving DecidableEq, Repr

namespace Verb

/-- All verbs. -/
def all : List Verb := [get, list, create, update, updateStatus]

/-- The name of a verb. -/
def name : Verb → String
  | get => "Get"
  | list => "List"
  | create => "Create"
  | update => "Update"
  | updateStatus => "UpdateStatus"

/-- The verb with a given name. -/
def ofName? (name : String) : Option Verb := all.find? fun verb => verb.name = name

/-- Whether a verb writes. -/
def isWrite : Verb → Bool
  | get | list => false
  | create | update | updateStatus => true

end Verb

/-- What a server says about a request that it refuses. -/
structure Refusal where
  code : Nat
  reason : String
  message : String
  deriving DecidableEq, Repr

/-- Why a step fails. -/
inductive Error where
  /-- A document does not describe an object of its kind. -/
  | serialization
  /-- The template is no config map. -/
  | template
  /-- There is no template. -/
  | missingTemplate
  /-- A field cannot be written into a document. -/
  | patch
  /-- A server refused a request. -/
  | refused (refusal : Refusal)
  /-- A request could not be made, or its answer not be read. -/
  | unreadable
  /-- There is no object of this kind and name. -/
  | notFound (kind : Kind) (ns name : String)
  /-- A request was not answered in time. -/
  | timeout (request : String)
  /-- A field that must have a value has none. -/
  | missingField (field : String)
  /-- An object without a uid cannot own others. -/
  | noUid (kind : Kind) (name : String)
  /-- An object is controlled by another owner. -/
  | foreignController (kind name : String)
  /-- A call was made to fail. -/
  | injected (verb : Verb) (kind : Kind) (name : String)
  /-- An object to be created is there already. -/
  | alreadyExists (kind : Kind) (name : String)
  /-- An object was changed since it was read. -/
  | conflict (kind : Kind) (name : String)
  deriving DecidableEq, Repr

namespace Error

/-- The text of an error. -/
def message : Error → String
  | serialization => "SerializationError"
  | template => "Template Error"
  | missingTemplate => "IO Error: No such file or directory (os error 2)"
  | patch => "Patch Error"
  | refused _ => "Kube Error"
  | unreadable => "Kube Error"
  | notFound kind ns name => "Not Found: " ++ kind.name ++ " " ++ ns ++ "/" ++ name
  | timeout request => "Timeout: " ++ request ++ " did not complete in time"
  | missingField field => "Missing Field: " ++ field
  | noUid kind name => "Owner Reference Error: " ++ kind.name ++ " " ++ name ++ " has no uid yet"
  | foreignController kind name =>
    "Owner Reference Error: already controlled by " ++ kind ++ " " ++ name
  | injected verb kind name =>
    "Other Error: injected " ++ verb.name ++ " failure for " ++ kind.name ++ " " ++ name
  | alreadyExists kind name => "Other Error: " ++ kind.name ++ " " ++ name ++ " already exists"
  | conflict kind name => "Other Error: conflict updating " ++ kind.name ++ " " ++ name

/-- Whether an error says that an object is not there. -/
def isNotFound : Error → Bool
  | notFound .. => true
  | _ => false

end Error

end Caretaker
