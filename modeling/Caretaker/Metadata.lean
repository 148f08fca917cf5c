import Caretaker.Json.Field
import Caretaker.Shape.Pod

/-!
# Metadata of objects

Names, labels, owners, versions and times of an object.  Metadata is written with the fields that have a
value and read back from them; unknown fields are dropped.
-/

namespace Caretaker

/-- A reference from an object to one that owns it. -/
structure OwnerReference where
  apiVersion : String
  kind : String
  name : String
  uid : String
  controller : Option Bool := none
  blockOwnerDeletion : Option Bool := none
  deriving DecidableEq, Inhabited

namespace OwnerReference

/-- The document of a reference. -/
def encode (reference : OwnerReference) : Json := .record [
  ("apiVersion", some (.text reference.apiVersion)),
  ("blockOwnerDeletion", reference.blockOwnerDeletion.map .bool),
  ("controller", reference.controller.map .bool),
  ("kind", some (.text reference.kind)),
  ("name", some (.text reference.name)),
  ("uid", some (.text reference.uid))]

/-- Read a reference; an absent text is empty. -/
def decode? (document : Json) : Option OwnerReference := do
  let members ← document.members?
  return {
    apiVersion := ← Json.requiredField members "apiVersion" "" Json.text?
    kind := ← Json.requiredField members "kind" "" Json.text?
    name := ← Json.requiredField members "name" "" Json.text?
    uid := ← Json.requiredField members "uid" "" Json.text?
    controller := ← Json.optionalField members "controller" Json.bool?
    blockOwnerDeletion := ← Json.optionalField members "blockOwnerDeletion" Json.bool? }

/-- Whether the owner controls the object. -/
def isController (reference : OwnerReference) : Bool := reference.controller = some true

end OwnerReference

/-- What every object says about itself. -/
structure Metadata where
  name : Option String := none
  generateName : Option String := none
  ns : Option String := none
  uid : Option String := none
  resourceVersion : Option String := none
  generation : Option Int64 := none
  creationTimestamp : Option Instant := none
  deletionTimestamp : Option Instant := none
  deletionGracePeriodSeconds : Option Int64 := none
  labels : Option LabelMap := none
  annotations : Option LabelMap := none
  finalizers : Option (List String) := none
  ownerReferences : Option (List OwnerReference) := none
  managedFields : Option (List (Document Shape.managedFields)) := none
  selfLink : Option String := none
  deriving Inhabited

namespace Metadata

/-- The document of metadata. -/
def encode (metadata : Metadata) : Json := .record [
  ("annotations", metadata.annotations.map .ofLabels),
  ("creationTimestamp", metadata.creationTimestamp.map .ofInstant),
  ("deletionGracePeriodSeconds",
    metadata.deletionGracePeriodSeconds.map fun value => .int value.toInt),
  ("deletionTimestamp", metadata.deletionTimestamp.map .ofInstant),
  ("finalizers", metadata.finalizers.map .ofTexts),
  ("generateName", metadata.generateName.map .text),
  ("generation", metadata.generation.map fun value => .int value.toInt),
  ("labels", metadata.labels.map .ofLabels),
  ("managedFields", metadata.managedFields.map fun entries => .array (entries.map (·.json))),
  ("name", metadata.name.map .text),
  ("namespace", metadata.ns.map .text),
  ("ownerReferences",
    metadata.ownerReferences.map fun references => .array (references.map OwnerReference.encode)),
  ("resourceVersion", metadata.resourceVersion.map .text),
  ("selfLink", metadata.selfLink.map .text),
  ("uid", metadata.uid.map .text)]

/-- Read metadata. -/
def decode? (document : Json) : Option Metadata := do
  let members ← document.members?
  return {
    name := ← Json.optionalField members "name" Json.text?
    generateName := ← Json.optionalField members "generateName" Json.text?
    ns := ← Json.optionalField members "namespace" Json.text?
    uid := ← Json.optionalField members "uid" Json.text?
    resourceVersion := ← Json.optionalField members "resourceVersion" Json.text?
    generation := ← Json.optionalField members "generation" Json.int64?
    creationTimestamp := ← Json.optionalField members "creationTimestamp" Json.instant?
    deletionTimestamp := ← Json.optionalField members "deletionTimestamp" Json.instant?
    deletionGracePeriodSeconds :=
      ← Json.optionalField members "deletionGracePeriodSeconds" Json.int64?
    labels := ← Json.optionalField members "labels" Json.labels?
    annotations := ← Json.optionalField members "annotations" Json.labels?
    finalizers := ← Json.optionalField members "finalizers" Json.texts?
    ownerReferences :=
      ← Json.optionalField members "ownerReferences" (Json.listOf OwnerReference.decode?)
    managedFields :=
      ← Json.optionalField members "managedFields"
        (Json.listOf (Document.decode? Shape.managedFields))
    selfLink := ← Json.optionalField members "selfLink" Json.text? }

/-- The name, else the stem that the name is generated from, else the empty text. -/
def nameAny (metadata : Metadata) : String := (metadata.name <|> metadata.generateName).getD ""

end Metadata

end Caretaker
