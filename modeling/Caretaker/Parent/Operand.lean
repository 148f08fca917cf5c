import Caretaker.Json.Field
import Caretaker.Shape.Pod

/-!
# What parents say about the programs they run

Images, resources, and the placement of pods.  An absent field stands for its default; null is
only allowed where a field is optional.
-/

namespace Caretaker

/-- The image that a parent asks for. -/
structure ImageSpec where
  repository : String := ""
  tag : String := ""
  pullPolicy : Option String := none
  deriving DecidableEq, Inhabited

namespace ImageSpec

/-- The document of an image. -/
def encode (image : ImageSpec) : Json := .record [
  ("pullPolicy", image.pullPolicy.map .text),
  ("repository", some (.text image.repository)),
  ("tag", some (.text image.tag))]

/-- Read an image. -/
def decode? (document : Json) : Option ImageSpec := do
  let members ← document.recordMembers? ["repository", "tag", "pullPolicy"]
  return {
    repository := ← Json.defaultField members "repository" "" Json.text?
    tag := ← Json.defaultField members "tag" "" Json.text?
    pullPolicy := ← Json.optionalField members "pullPolicy" Json.text? }

end ImageSpec

/-- Amounts of processing time and memory as a user wrote them; an empty text is no amount. -/
structure ResourceSpec where
  cpu : String := ""
  memory : String := ""
  deriving DecidableEq, Inhabited

namespace ResourceSpec

/-- The document of a pair of amounts; empty amounts are left out. -/
def encode (spec : ResourceSpec) : Json := .record [
  ("cpu", Json.textUnlessEmpty spec.cpu),
  ("memory", Json.textUnlessEmpty spec.memory)]

/-- Read a pair of amounts. -/
def decode? (document : Json) : Option ResourceSpec := do
  let members ← document.recordMembers? ["cpu", "memory"]
  return {
    cpu := ← Json.defaultField members "cpu" "" Json.text?
    memory := ← Json.defaultField members "memory" "" Json.text? }

end ResourceSpec

/-- What a container asks for and what it is limited to. -/
structure Resources where
  requests : ResourceSpec := {}
  limits : ResourceSpec := {}
  deriving DecidableEq, Inhabited

namespace Resources

/-- The document of requests and limits. -/
def encode (resources : Resources) : Json := .record [
  ("limits", some resources.limits.encode),
  ("requests", some resources.requests.encode)]

/-- Read requests and limits. -/
def decode? (document : Json) : Option Resources := do
  let members ← document.recordMembers? ["requests", "limits"]
  return {
    requests := ← Json.defaultField members "requests" {} ResourceSpec.decode?
    limits := ← Json.defaultField members "limits" {} ResourceSpec.decode? }

end Resources

/-- A taint that a pod tolerates. -/
abbrev Toleration := Document Shape.toleration

/-- The privileges of a container. -/
abbrev SecurityContext := Document Shape.securityContext

/-- Requests and limits in the form of the API. -/
abbrev ResourceRequirements := Document Shape.resourceRequirements

/-- The document of a list of documents. -/
def Document.encodeList {shape : Shape} (documents : List (Document shape)) : Json :=
  .array (documents.map (·.json))

/-- Read a list of documents of one shape. -/
def Document.decodeList? (shape : Shape) (document : Json) : Option (List (Document shape)) :=
  document.listOf (Document.decode? shape)

end Caretaker
