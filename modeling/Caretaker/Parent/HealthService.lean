import Caretaker.Parent.Operand

/-!
# Health services

What a health service asks for: a cache and the health check service itself.  Its status lists the
pods of both.
-/

namespace Caretaker

/-- The kind of workload that runs the cache. -/
inductive MemcachedWorkload where
  | deployment
  | statefulSet
  deriving DecidableEq, Inhabited, Repr

namespace MemcachedWorkload

/-- The name of a workload. -/
def name : MemcachedWorkload → String
  | deployment => "Deployment"
  | statefulSet => "StatefulSet"

/-- The workload with a given name. -/
def ofName? (name : String) : Option MemcachedWorkload :=
  [deployment, statefulSet].find? fun workload => workload.name = name

/-- Read a workload: its name, or an object with its name as the only member and null as value. -/
def decode? : Json → Option MemcachedWorkload
  | .text name => ofName? name
  | .object [(name, .null)] => ofName? name
  | _ => none

end MemcachedWorkload

/-- The cache of a health service. -/
structure MemcachedSpec where
  name : String := ""
  image : ImageSpec := {}
  workload : MemcachedWorkload := .deployment
  replicaCount : Int32 := 0
  serviceAccountName : Option String := none
  nodeSelector : Option LabelMap := none
  tolerations : Option (List Toleration) := none
  securityContext : Option SecurityContext := none
  command : Option (List String) := none
  resources : Resources := {}
  deriving Inhabited

namespace MemcachedSpec

/-- The document of a cache. -/
def encode (spec : MemcachedSpec) : Json := .record [
  ("command", spec.command.map .ofTexts),
  ("image", some spec.image.encode),
  ("name", some (.text spec.name)),
  ("nodeSelector", spec.nodeSelector.map .ofLabels),
  ("replicaCount", some (.int spec.replicaCount.toInt)),
  ("resources", some spec.resources.encode),
  ("securityContext", spec.securityContext.map (·.json)),
  ("serviceAccountName", spec.serviceAccountName.map .text),
  ("tolerations", spec.tolerations.map Document.encodeList),
  ("workload", some (.text spec.workload.name))]

/-- Read a cache. -/
def decode? (document : Json) : Option MemcachedSpec := do
  let members ← document.recordMembers? ["name", "image", "workload", "replicaCount",
    "serviceAccountName", "nodeSelector", "tolerations", "securityContext", "command", "resources"]
  return {
    name := ← Json.defaultField members "name" "" Json.text?
    image := ← Json.defaultField members "image" {} ImageSpec.decode?
    workload := ← Json.defaultField members "workload" .deployment MemcachedWorkload.decode?
    replicaCount := ← Json.defaultField members "replicaCount" 0 Json.int32?
    serviceAccountName := ← Json.optionalField members "serviceAccountName" Json.text?
    nodeSelector := ← Json.optionalField members "nodeSelector" Json.labels?
    tolerations :=
      ← Json.optionalField members "tolerations" (Document.decodeList? Shape.toleration)
    securityContext :=
      ← Json.optionalField members "securityContext" (Document.decode? Shape.securityContext)
    command := ← Json.optionalField members "command" Json.texts?
    resources := ← Json.defaultField members "resources" {} Resources.decode? }

end MemcachedSpec

/-- The health check service of a health service. -/
structure HealthCheckSpec where
  name : String := ""
  image : ImageSpec := {}
  configmapName : String := ""
  cloudpakNameSetting : String := ""
  serviceNameSetting : String := ""
  dependsSetting : String := ""
  replicaCount : Int32 := 0
  serviceAccountName : Option String := none
  nodeSelector : Option LabelMap := none
  tolerations : Option (List Toleration) := none
  securityContext : Option SecurityContext := none
  hostNetwork : Bool := false
  resources : Resources := {}
  deriving Inhabited

namespace HealthCheckSpec

/-- The document of a health check service. -/
def encode (spec : HealthCheckSpec) : Json := .record [
  ("cloudpakNameSetting", some (.text spec.cloudpakNameSetting)),
  ("configmapName", some (.text spec.configmapName)),
  ("dependsSetting", some (.text spec.dependsSetting)),
  ("hostNetwork", some (.bool spec.hostNetwork)),
  ("image", some spec.image.encode),
  ("name", some (.text spec.name)),
  ("nodeSelector", spec.nodeSelector.map .ofLabels),
  ("replicaCount", some (.int spec.replicaCount.toInt)),
  ("resources", some spec.resources.encode),
  ("securityContext", spec.securityContext.map (·.json)),
  ("serviceAccountName", spec.serviceAccountName.map .text),
  ("serviceNameSetting", some (.text spec.serviceNameSetting)),
  ("tolerations", spec.tolerations.map Document.encodeList)]

/-- Read a health check service. -/
def decode? (document : Json) : Option HealthCheckSpec := do
  let members ← document.recordMembers? ["name", "image", "configmapName", "cloudpakNameSetting",
    "serviceNameSetting", "dependsSetting", "replicaCount", "serviceAccountName", "nodeSelector",
    "tolerations", "securityContext", "hostNetwork", "resources"]
  return {
    name := ← Json.defaultField members "name" "" Json.text?
    image := ← Json.defaultField members "image" {} ImageSpec.decode?
    configmapName := ← Json.defaultField members "configmapName" "" Json.text?
    cloudpakNameSetting := ← Json.defaultField members "cloudpakNameSetting" "" Json.text?
    serviceNameSetting := ← Json.defaultField members "serviceNameSetting" "" Json.text?
    dependsSetting := ← Json.defaultField members "dependsSetting" "" Json.text?
    replicaCount := ← Json.defaultField members "replicaCount" 0 Json.int32?
    serviceAccountName := ← Json.optionalField members "serviceAccountName" Json.text?
    nodeSelector := ← Json.optionalField members "nodeSelector" Json.labels?
    tolerations :=
      ← Json.optionalField members "tolerations" (Document.decodeList? Shape.toleration)
    securityContext :=
      ← Json.optionalField members "securityContext" (Document.decode? Shape.securityContext)
    hostNetwork := ← Json.defaultField members "hostNetwork" false Json.bool?
    resources := ← Json.defaultField members "resources" {} Resources.decode? }

end HealthCheckSpec

/-- What a health service asks for. -/
structure HealthServiceSpec where
  memcached : MemcachedSpec := {}
  healthService : HealthCheckSpec := {}
  deriving Inhabited

namespace HealthServiceSpec

/-- The document of a specification. -/
def encode (spec : HealthServiceSpec) : Json := .record [
  ("healthService", some spec.healthService.encode),
  ("memcached", some spec.memcached.encode)]

/-- Read a specification. -/
def decode? (document : Json) : Option HealthServiceSpec := do
  let members ← document.recordMembers? ["memcached", "healthService"]
  return {
    memcached := ← Json.defaultField members "memcached" {} MemcachedSpec.decode?
    healthService := ← Json.defaultField members "healthService" {} HealthCheckSpec.decode? }

end HealthServiceSpec

/-- The pods of a health service. -/
structure HealthServiceStatus where
  memcachedNodes : List String := []
  healthCheckNodes : List String := []
  deriving DecidableEq, Inhabited

namespace HealthServiceStatus

/-- The document of a status; empty lists are left out. -/
def encode (status : HealthServiceStatus) : Json := .record [
  ("healthCheckNodes", Json.textsUnlessEmpty status.healthCheckNodes),
  ("memcachedNodes", Json.textsUnlessEmpty status.memcachedNodes)]

/-- Read a status. -/
def decode? (document : Json) : Option HealthServiceStatus := do
  let members ← document.recordMembers? ["memcachedNodes", "healthCheckNodes"]
  return {
    memcachedNodes := ← Json.defaultField members "memcachedNodes" [] Json.texts?
    healthCheckNodes := ← Json.defaultField members "healthCheckNodes" [] Json.texts? }

end HealthServiceStatus

end Caretaker
