import Caretaker.Shape.Metadata

/-!
# Shapes of claims of volumes

A claim is an object of its own, or a template from which such objects are made.  Fields are listed
in ascending order of their names.
-/

namespace Caretaker

namespace Shape

/-- What a claim asks for. -/
def claimSpec : Shape := .record [
  optional "accessModes" (.list .text),
  optional "dataSource" (.record [
    optional "apiGroup" .text,
    required "kind" .text,
    required "name" .text]),
  optional "dataSourceRef" (.record [
    optional "apiGroup" .text,
    required "kind" .text,
    required "name" .text,
    optional "namespace" .text]),
  optional "resources" (.record [
    optional "limits" texts,
    optional "requests" texts]),
  optional "selector" labelSelector,
  optional "storageClassName" .text,
  optional "volumeAttributesClassName" .text,
  optional "volumeMode" .text,
  optional "volumeName" .text]

/-- What became of a claim. -/
def claimStatus : Shape := .record [
  optional "accessModes" (.list .text),
  optional "allocatedResourceStatuses" texts,
  optional "allocatedResources" texts,
  optional "capacity" texts,
  optional "conditions" (.list (condition ["lastProbeTime", "lastTransitionTime"])),
  optional "currentVolumeAttributesClassName" .text,
  optional "modifyVolumeStatus" (.record [
    required "status" .text,
    optional "targetVolumeAttributesClassName" .text]),
  optional "phase" .text]

/-- A claim of a persistent volume. -/
def persistentVolumeClaim : Shape := .record [
  optional "spec" claimSpec,
  optional "status" claimStatus]

/-- A claim that stands in another object, with its API version and its kind. -/
def claimTemplate : Shape := .record [
  required "apiVersion" (.constant "v1"),
  required "kind" (.constant "PersistentVolumeClaim"),
  required "metadata" metadata,
  optional "spec" claimSpec,
  optional "status" claimStatus]

end Shape

end Caretaker
