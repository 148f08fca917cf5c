import Caretaker.Kind
import Caretaker.Metadata
import Caretaker.Parent.HealthService
import Caretaker.Parent.MustGather

/-!
# Objects

An object of a kind is its metadata and its body.  The body of a parent is what its kind specifies;
the body of any other object is a document of its kind's shape.  `Object.encode` writes an object
with its API version and kind, and `Object.decode?` reads one: a parent must have metadata and a
specification and may carry any API version and kind, any other object may leave its metadata out
but must carry no other API version or kind than its own.
-/

namespace Caretaker

/-- A specification together with what was last observed. -/
structure Observed (Spec Status : Type) where
  spec : Spec
  status : Option Status := none
  deriving Inhabited

/-- What a parent holds besides its metadata. -/
def ParentKind.Body : ParentKind → Type
  | .healthService => Observed HealthServiceSpec HealthServiceStatus
  | .mustGatherService => Observed MustGatherServiceSpec MustGatherServiceStatus
  | .mustGatherJob => MustGatherJobSpec
  | .mustGatherConfig => MustGatherConfigSpec

/-- What an object of a kind holds besides its metadata. -/
def Kind.Body : Kind → Type
  | .parent kind => kind.Body
  | .child kind => Document kind.shape
  | .pod => Document Shape.pod
  | .storageClass => Document Shape.storageClass

/-- An object of a kind. -/
structure Object (kind : Kind) where
  metadata : Metadata
  body : kind.Body

/-- A health service. -/
abbrev HealthService := Object (.parent .healthService)

/-- A must-gather service. -/
abbrev MustGatherService := Object (.parent .mustGatherService)

/-- A must-gather job. -/
abbrev MustGatherJob := Object (.parent .mustGatherJob)

/-- A must-gather configuration. -/
abbrev MustGatherConfig := Object (.parent .mustGatherConfig)

/-- A child of a kind. -/
abbrev Child (kind : ChildKind) := Object (.child kind)

/-- A pod. -/
abbrev Pod := Object .pod

/-- A storage class. -/
abbrev StorageClass := Object .storageClass

namespace Observed

variable {Spec Status : Type}

/-- The members that a specification and a status are written as. -/
def encode (writeSpec : Spec → Json) (writeStatus : Status → Json)
    (body : Observed Spec Status) : Json.Members :=
  match body.status with
  | none => [("spec", writeSpec body.spec)]
  | some status => [("spec", writeSpec body.spec), ("status", writeStatus status)]

/-- Read a specification, which must be there, and a status, which may be absent or null. -/
def decode? (readSpec : Json → Option Spec) (readStatus : Json → Option Status)
    (members : Json.Members) : Option (Observed Spec Status) := do
  return {
    spec := ← (Assoc.get? members "spec").bind readSpec
    status := ← Json.optionalField members "status" readStatus }

end Observed

namespace ParentKind

/-- The members that the body of a parent is written as. -/
def encodeBody : (kind : ParentKind) → kind.Body → Json.Members
  | .healthService, body => Observed.encode HealthServiceSpec.encode HealthServiceStatus.encode body
  | .mustGatherService, body =>
    Observed.encode MustGatherServiceSpec.encode MustGatherServiceStatus.encode body
  | .mustGatherJob, spec => [("spec", MustGatherJobSpec.encode spec)]
  | .mustGatherConfig, spec => [("spec", MustGatherConfigSpec.encode spec)]

/-- Read the body of a parent. -/
def decodeBody? : (kind : ParentKind) → Json.Members → Option kind.Body
  | .healthService, members =>
    Observed.decode? HealthServiceSpec.decode? HealthServiceStatus.decode? members
  | .mustGatherService, members =>
    Observed.decode? MustGatherServiceSpec.decode? MustGatherServiceStatus.decode? members
  | .mustGatherJob, members => (Assoc.get? members "spec").bind MustGatherJobSpec.decode?
  | .mustGatherConfig, members => (Assoc.get? members "spec").bind MustGatherConfigSpec.decode?

/-- The fields of a parent, in order. -/
def fields : ParentKind → List String
  | .healthService | .mustGatherService => ["metadata", "spec", "status"]
  | .mustGatherJob | .mustGatherConfig => ["metadata", "spec"]

/-- The members of a parent: those of an object, or the items of an array with one value for each
field. -/
def members? (kind : ParentKind) : Json → Option Json.Members
  | .object members => some members
  | .array items => if items.length = kind.fields.length then some (kind.fields.zip items) else none
  | _ => none

end ParentKind

namespace Kind

/-- The members that the body of an object is written as. -/
def encodeBody : (kind : Kind) → kind.Body → Json.Members
  | .parent kind, body => kind.encodeBody body
  | .child _, body => Document.members body
  | .pod, body => Document.members body
  | .storageClass, body => Document.members body

end Kind

namespace Object

variable {kind : Kind}

/-- The document of an object. -/
def encode (object : Object kind) : Json :=
  .ofMembers
    ([("apiVersion", .text kind.apiVersion), ("kind", .text kind.name),
      ("metadata", object.metadata.encode)] ++ kind.encodeBody object.body)

/-- Read a parent. -/
def decodeParent? (kind : ParentKind) (document : Json) : Option (Object (.parent kind)) := do
  let members ← kind.members? document
  return {
    metadata := ← (Assoc.get? members "metadata").bind Metadata.decode?
    body := ← kind.decodeBody? members }

/-- Whether a member is absent or has the given text. -/
def absentOrText (members : Json.Members) (name value : String) : Bool :=
  match Assoc.get? members name with
  | none => true
  | some given => given = .text value

/-- Read metadata and body of an object whose body is a document. -/
def decodeDocument? (kind : Kind) (shape : Shape) (document : Json) :
    Option (Metadata × Document shape) := do
  let members ← document.members?
  if absentOrText members "apiVersion" kind.apiVersion && absentOrText members "kind" kind.name then
    return (← Json.requiredField members "metadata" {} Metadata.decode?,
      ← Document.decode? shape document)
  else none

/-- Read an object of a kind. -/
def decode? : (kind : Kind) → Json → Option (Object kind)
  | .parent kind, document => decodeParent? kind document
  | .child kind, document =>
    (decodeDocument? (.child kind) kind.shape document).map fun read => ⟨read.1, read.2⟩
  | .pod, document => (decodeDocument? .pod Shape.pod document).map fun read => ⟨read.1, read.2⟩
  | .storageClass, document =>
    (decodeDocument? .storageClass Shape.storageClass document).map fun read => ⟨read.1, read.2⟩

/-- The name of an object, empty if it has none. -/
def nameD (object : Object kind) : String := object.metadata.name.getD ""

/-- The namespace of an object, empty if it has none. -/
def nsD (object : Object kind) : String := object.metadata.ns.getD ""

end Object

namespace HealthService

/-- What a health service asks for. -/
def spec (object : HealthService) : HealthServiceSpec :=
  let body : Observed HealthServiceSpec HealthServiceStatus := object.body
  body.spec

/-- The status of a health service; an absent one is empty. -/
def status (object : HealthService) : HealthServiceStatus :=
  let body : Observed HealthServiceSpec HealthServiceStatus := object.body
  body.status.getD {}

/-- The health service with another status. -/
def withStatus (object : HealthService) (status : HealthServiceStatus) : HealthService :=
  let body : Observed HealthServiceSpec HealthServiceStatus :=
    ⟨object.spec, some status⟩
  { object with body := body }

end HealthService

namespace MustGatherService

/-- What a must-gather service asks for. -/
def spec (object : MustGatherService) : MustGatherServiceSpec :=
  let body : Observed MustGatherServiceSpec MustGatherServiceStatus := object.body
  body.spec

/-- The status of a must-gather service; an absent one is empty. -/
def status (object : MustGatherService) : MustGatherServiceStatus :=
  let body : Observed MustGatherServiceSpec MustGatherServiceStatus := object.body
  body.status.getD {}

/-- The must-gather service with another status. -/
def withStatus (object : MustGatherService) (status : MustGatherServiceStatus) :
    MustGatherService :=
  let body : Observed MustGatherServiceSpec MustGatherServiceStatus :=
    ⟨object.spec, some status⟩
  { object with body := body }

end MustGatherService

/-- What a must-gather job asks for. -/
def MustGatherJob.spec (object : MustGatherJob) : MustGatherJobSpec := object.body

/-- What a must-gather configuration says. -/
def MustGatherConfig.spec (object : MustGatherConfig) : MustGatherConfigSpec := object.body

end Caretaker
