import Caretaker.Definition.Parent

/-!
# Definitions of the parent kinds

The manifest that makes a parent kind known to an API server: its names, its one version, the
columns of its table and the schema of its objects.
-/

namespace Caretaker

namespace ParentKind

/-- The short name of a parent kind. -/
def shortName : ParentKind → String
  | healthService => "hs"
  | mustGatherService => "mgs"
  | mustGatherJob => "mgj"
  | mustGatherConfig => "mgc"

/-- The name of one object of a parent kind. -/
def singular : ParentKind → String
  | healthService => "healthservice"
  | mustGatherService => "mustgatherservice"
  | mustGatherJob => "mustgatherjob"
  | mustGatherConfig => "mustgatherconfig"

/-- What a parent kind is for. -/
def purpose : ParentKind → String
  | healthService =>
    "HealthService runs the cluster health-check service together with its memcached cache"
  | mustGatherService =>
    "MustGatherService serves collected must-gather archives from a persistent volume"
  | mustGatherJob =>
    "MustGatherJob runs a one-shot diagnostic collection into the must-gather volume"
  | mustGatherConfig => "MustGatherConfig publishes a gather configuration for must-gather jobs"

/-- The columns of the table of a parent kind: the heading of each and where its text is found. -/
def columns : ParentKind → List (String × String)
  | healthService =>
    [("Service", ".spec.healthService.name"), ("Memcached", ".spec.memcached.name")]
  | mustGatherService =>
    [("Service", ".spec.mustGather.name"), ("PVC", ".spec.persistentVolumeClaim.name")]
  | mustGatherJob | mustGatherConfig => []

/-- The schema of the objects of a parent kind. -/
def schema (kind : ParentKind) : Schema :=
  .described kind.purpose <| .record ["spec"] <|
    ("spec", Schema.spec kind) ::
      match Schema.status? kind with
      | some status => [("status", status)]
      | none => []

/-- The definition of the version of a parent kind. -/
def versionDefinition (kind : ParentKind) : Json := .ofMembers [
  ("additionalPrinterColumns", .array (kind.columns.map fun column => .ofMembers [
    ("jsonPath", .text column.2), ("name", .text column.1), ("type", .text "string")])),
  ("name", .text version),
  ("schema", .object [("openAPIV3Schema", kind.schema.encode.set "title" (.text kind.name))]),
  ("served", .bool true),
  ("storage", .bool true),
  ("subresources", .object (if (Schema.status? kind).isSome then [("status", .object [])] else []))]

/-- The manifest of a parent kind. -/
def manifest (kind : ParentKind) : Json := .ofMembers [
  ("apiVersion", .text "apiextensions.k8s.io/v1"),
  ("kind", .text "CustomResourceDefinition"),
  ("metadata", .object [("name", .text (kind.plural ++ "." ++ group))]),
  ("spec", .ofMembers [
    ("group", .text group),
    ("names", .ofMembers [
      ("categories", .array []),
      ("kind", .text kind.name),
      ("plural", .text kind.plural),
      ("shortNames", .ofTexts [kind.shortName]),
      ("singular", .text kind.singular)]),
    ("scope", .text "Namespaced"),
    ("versions", .array [kind.versionDefinition])])]

end ParentKind

end Caretaker
