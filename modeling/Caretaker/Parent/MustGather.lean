import Caretaker.Parent.Operand

/-!
# Must-gather services, jobs and configurations

A must-gather service serves collected archives from a volume, a job collects one archive into it,
and a configuration says what a job collects.
-/

namespace Caretaker

/-- The workload of a must-gather service. -/
structure MustGatherSpec where
  name : String := ""
  image : ImageSpec := {}
  serviceAccountName : Option String := none
  replicas : Int32 := 0
  nodeSelector : Option LabelMap := none
  tolerations : Option (List Toleration) := none
  securityContext : Option SecurityContext := none
  command : Option (List String) := none
  resources : Resources := {}
  hostNetwork : Bool := false
  deriving Inhabited

namespace MustGatherSpec

/-- The document of a workload. -/
def encode (spec : MustGatherSpec) : Json := .record [
  ("command", spec.command.map .ofTexts),
  ("hostNetwork", some (.bool spec.hostNetwork)),
  ("image", some spec.image.encode),
  ("name", some (.text spec.name)),
  ("nodeSelector", spec.nodeSelector.map .ofLabels),
  ("replicas", some (.int spec.replicas.toInt)),
  ("resources", some spec.resources.encode),
  ("securityContext", spec.securityContext.map (·.json)),
  ("serviceAccountName", spec.serviceAccountName.map .text),
  ("tolerations", spec.tolerations.map Document.encodeList)]

/-- Read a workload. -/
def decode? (document : Json) : Option MustGatherSpec := do
  let members ← document.recordMembers? ["name", "image", "serviceAccountName", "replicas",
    "nodeSelector", "tolerations", "securityContext", "command", "resources", "hostNetwork"]
  return {
    name := ← Json.defaultField members "name" "" Json.text?
    image := ← Json.defaultField members "image" {} ImageSpec.decode?
    serviceAccountName := ← Json.optionalField members "serviceAccountName" Json.text?
    replicas := ← Json.defaultField members "replicas" 0 Json.int32?
    nodeSelector := ← Json.optionalField members "nodeSelector" Json.labels?
    tolerations :=
      ← Json.optionalField members "tolerations" (Document.decodeList? Shape.toleration)
    securityContext :=
      ← Json.optionalField members "securityContext" (Document.decode? Shape.securityContext)
    command := ← Json.optionalField members "command" Json.texts?
    resources := ← Json.defaultField members "resources" {} Resources.decode?
    hostNetwork := ← Json.defaultField members "hostNetwork" false Json.bool? }

end MustGatherSpec

/-- The claim that holds the archives. -/
structure ClaimSpec where
  name : String := ""
  resources : Option ResourceRequirements := none
  storageClassName : Option String := none
  deriving Inhabited

namespace ClaimSpec

/-- The document of a claim. -/
def encode (spec : ClaimSpec) : Json := .record [
  ("name", some (.text spec.name)),
  ("resources", spec.resources.map (·.json)),
  ("storageClassName", spec.storageClassName.map .text)]

/-- Read a claim. -/
def decode? (document : Json) : Option ClaimSpec := do
  let members ← document.recordMembers? ["name", "resources", "storageClassName"]
  return {
    name := ← Json.defaultField members "name" "" Json.text?
    resources :=
      ← Json.optionalField members "resources" (Document.decode? Shape.resourceRequirements)
    storageClassName := ← Json.optionalField members "storageClassName" Json.text? }

end ClaimSpec

/-- What a must-gather service asks for. -/
structure MustGatherServiceSpec where
  mustGather : MustGatherSpec := {}
  persistentVolumeClaim : ClaimSpec := {}
  deriving Inhabited

namespace MustGatherServiceSpec

/-- The document of a specification. -/
def encode (spec : MustGatherServiceSpec) : Json := .record [
  ("mustGather", some spec.mustGather.encode),
  ("persistentVolumeClaim", some spec.persistentVolumeClaim.encode)]

/-- Read a specification. -/
def decode? (document : Json) : Option MustGatherServiceSpec := do
  let members ← document.recordMembers? ["mustGather", "persistentVolumeClaim"]
  return {
    mustGather := ← Json.defaultField members "mustGather" {} MustGatherSpec.decode?
    persistentVolumeClaim :=
      ← Json.defaultField members "persistentVolumeClaim" {} ClaimSpec.decode? }

end MustGatherServiceSpec

/-- The pods of a must-gather service. -/
structure MustGatherServiceStatus where
  mustGatherServiceNodes : List String := []
  deriving DecidableEq, Inhabited

namespace MustGatherServiceStatus

/-- The document of a status; an empty list is left out. -/
def encode (status : MustGatherServiceStatus) : Json := .record [
  ("mustGatherServiceNodes", Json.textsUnlessEmpty status.mustGatherServiceNodes)]

/-- Read a status. -/
def decode? (document : Json) : Option MustGatherServiceStatus := do
  let members ← document.recordMembers? ["mustGatherServiceNodes"]
  return {
    mustGatherServiceNodes :=
      ← Json.defaultField members "mustGatherServiceNodes" [] Json.texts? }

end MustGatherServiceStatus

/-- What a must-gather job asks for. -/
structure MustGatherJobSpec where
  image : ImageSpec := {}
  serviceAccountName : Option String := none
  mustGatherCommand : Option String := none
  mustGatherConfigName : Option String := none
  deriving DecidableEq, Inhabited

namespace MustGatherJobSpec

/-- The document of a specification. -/
def encode (spec : MustGatherJobSpec) : Json := .record [
  ("image", some spec.image.encode),
  ("mustGatherCommand", spec.mustGatherCommand.map .text),
  ("mustGatherConfigName", spec.mustGatherConfigName.map .text),
  ("serviceAccountName", spec.serviceAccountName.map .text)]

/-- Read a specification. -/
def decode? (document : Json) : Option MustGatherJobSpec := do
  let members ← document.recordMembers?
    ["image", "serviceAccountName", "mustGatherCommand", "mustGatherConfigName"]
  return {
    image := ← Json.defaultField members "image" {} ImageSpec.decode?
    serviceAccountName := ← Json.optionalField members "serviceAccountName" Json.text?
    mustGatherCommand := ← Json.optionalField members "mustGatherCommand" Json.text?
    mustGatherConfigName := ← Json.optionalField members "mustGatherConfigName" Json.text? }

end MustGatherJobSpec

/-- What a must-gather configuration says. -/
structure MustGatherConfigSpec where
  gatherConfig : String := ""
  deriving DecidableEq, Inhabited

namespace MustGatherConfigSpec

/-- The document of a configuration. -/
def encode (spec : MustGatherConfigSpec) : Json := .record [
  ("gatherConfig", some (.text spec.gatherConfig))]

/-- Read a configuration. -/
def decode? (document : Json) : Option MustGatherConfigSpec := do
  let members ← document.recordMembers? ["gatherConfig"]
  return { gatherConfig := ← Json.defaultField members "gatherConfig" "" Json.text? }

end MustGatherConfigSpec

end Caretaker
