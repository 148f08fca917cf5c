import Caretaker.Shape

/-!
# Shapes that are found in many kinds of objects

The metadata of a template, references, selections of objects by their labels, and the conditions
that a status reports.  Fields are listed in ascending order of their names.
-/

namespace Caretaker

namespace Shape

/-- An entry of the record of who manages which fields. -/
def managedFields : Shape := .record [
  optional "apiVersion" .text,
  optional "fieldsType" .text,
  optional "fieldsV1" .any,
  optional "manager" .text,
  optional "operation" .text,
  optional "subresource" .text,
  optional "time" .time]

/-- A reference to an owner. -/
def ownerReference : Shape := .record [
  required "apiVersion" .text,
  optional "blockOwnerDeletion" .flag,
  optional "controller" .flag,
  required "kind" .text,
  required "name" .text,
  required "uid" .text]

/-- The metadata of a template. -/
def metadata : Shape := .record [
  optional "annotations" texts,
  optional "creationTimestamp" .time,
  optional "deletionGracePeriodSeconds" .int64,
  optional "deletionTimestamp" .time,
  optional "finalizers" (.list .text),
  optional "generateName" .text,
  optional "generation" .int64,
  optional "labels" texts,
  optional "managedFields" (.list managedFields),
  optional "name" .text,
  optional "namespace" .text,
  optional "ownerReferences" (.list ownerReference),
  optional "resourceVersion" .text,
  optional "selfLink" .text,
  optional "uid" .text]

/-- A selection of objects by their labels. -/
def labelSelector : Shape := .record [
  optional "matchExpressions" (.list (.record [
    required "key" .text,
    required "operator" .text,
    optional "values" (.list .text)])),
  optional "matchLabels" texts]

/-- A reference to an object in the same namespace. -/
def localObject : Shape := .record [required "name" .text]

/-- A condition that a status reports, with the times that are told of it. -/
def condition (times : List String) : Shape := .record (times.map (optional · .time) ++ [
  optional "message" .text,
  optional "reason" .text,
  required "status" .text,
  required "type" .text])

end Shape

end Caretaker
