import Caretaker.Error
import Caretaker.Json.Path
import Caretaker.Object

/-!
# Merging a desired object into a live one

Each kind of child has a list of mutable fields.  Merging copies them, one after the other, from the
desired object onto the live one: a field that the desired object has is written, with the parents
it lacks, and a field that the desired object lacks is removed.  Everything else stays as it is on
the live object, so a kind without mutable fields is never changed.
-/

namespace Caretaker

/-- One edit of a document. -/
inductive FieldEdit where
  /-- Write a value at a path whose parent is there. -/
  | add (path : List String) (value : Json)
  /-- Remove the value at a path. -/
  | remove (path : List String)
  deriving DecidableEq

namespace FieldEdit

/-- The document after an edit; none if the edit does not apply. -/
def perform? (document : Json) : FieldEdit → Option Json
  | add path value => document.addAt? path value
  | remove path => document.removeAt? path

/-- The document after a list of edits. -/
def performAll? (document : Json) (edits : List FieldEdit) : Option Json :=
  edits.foldlM perform? document

/-- Whether nothing, or null, is at a path. -/
def isMissing (document : Json) (path : List String) : Bool :=
  match document.at? path with
  | none | some .null => true
  | some _ => false

/-- The edits that create the missing parents of a path below `above`; once a parent is missing, all
further ones are. -/
def addParents (live : Json) (missing : Bool) (above : List String) : List String → List FieldEdit
  | [] | [_] => []
  | name :: rest =>
    let path := above ++ [name]
    let missing := missing || isMissing live path
    if missing then .add path (.object []) :: addParents live missing path rest
    else addParents live missing path rest

/-- The edits that copy the field at a path. -/
def copyField (live wanted : Json) (path : List String) : List FieldEdit :=
  match wanted.at? path with
  | some value => addParents live false [] path ++ [.add path value]
  | none => if (live.at? path).isSome then [.remove path] else []

/-- The live document after the field at a path is copied. -/
def copied? (wanted live : Json) (path : List String) : Option Json :=
  performAll? live (copyField live wanted path)

end FieldEdit

namespace ChildKind

/-- The fields of a pod template that follow the desired object. -/
def mutableTemplateFields : List (List String) := [
  ["spec", "template", "metadata", "labels"],
  ["spec", "template", "metadata", "annotations"],
  ["spec", "template", "spec", "terminationGracePeriodSeconds"],
  ["spec", "template", "spec", "hostNetwork"],
  ["spec", "template", "spec", "hostPID"],
  ["spec", "template", "spec", "hostIPC"],
  ["spec", "template", "spec", "serviceAccountName"],
  ["spec", "template", "spec", "containers"],
  ["spec", "template", "spec", "nodeSelector"],
  ["spec", "template", "spec", "tolerations"],
  ["spec", "template", "spec", "volumes"]]

/-- The fields of a kind that follow the desired object; a kind without any is only created. -/
def mutableFields : ChildKind → List (List String)
  | deployment =>
    [["metadata", "labels"], ["spec", "minReadySeconds"], ["spec", "replicas"],
      ["spec", "selector", "matchLabels"]] ++ mutableTemplateFields
  | statefulSet => [["metadata", "labels"], ["spec", "replicas"]] ++ mutableTemplateFields
  | service => [["metadata", "labels"], ["spec", "ports"], ["spec", "selector"], ["spec", "type"]]
  | ingress => [["metadata", "labels"], ["metadata", "annotations"], ["spec", "rules"]]
  | configMap | persistentVolumeClaim | job => []

/-- Whether an existing object of a kind is left alone. -/
def isCreateOnly (kind : ChildKind) : Bool := kind.mutableFields.isEmpty

end ChildKind

/-- The live object with the mutable fields of the desired one. -/
def merge {kind : ChildKind} (live desired : Child kind) : Except Error (Child kind) :=
  match kind.mutableFields.foldlM (FieldEdit.copied? desired.encode) live.encode with
  | none => .error .patch
  | some document =>
    match Object.decode? (.child kind) document with
    | none => .error .serialization
    | some merged => .ok merged

end Caretaker
