import Caretaker.Build.Part

/-!
# The cache of a health service

The cache runs as a deployment or as a stateful set with the same pods, behind a headless service.
-/

namespace Caretaker

namespace Build

/-- The name of the service in front of the cache. -/
def memcachedServiceName : String := "memcached"

/-- The TCP port of the cache. -/
def memcachedPort : Int := 11211

/-- The command that runs the cache. -/
def memcachedCommand : List String := ["memcached", "-m 64", "-o", "modern", "-v"]

/-- The labels of the cache, of its pods and of its service. -/
def memcachedLabels (parent : HealthService) : LabelMap :=
  labels parent.spec.memcached.name parent.metadata.nameAny

/-- The name of the cache, which must not be blank. -/
def memcachedName (parent : HealthService) : Except Error String :=
  nonBlank parent.spec.memcached.name "spec.memcached.name"

/-- The container of the cache. -/
def memcachedContainer (parent : HealthService) (images : OperandImages) : Json :=
  let spec := parent.spec.memcached
  .object [
    ("command", .ofTexts (command spec.command memcachedCommand)),
    ("image", .text (spec.image.operandReference .memcached images)),
    ("imagePullPolicy", .text (pullPolicy spec.image.pullPolicy)),
    ("livenessProbe", tcpProbe spec.name 30 5),
    ("name", .text spec.name),
    ("ports", .array [.object [
      ("containerPort", .int memcachedPort),
      ("name", .text spec.name)]]),
    ("readinessProbe", tcpProbe spec.name 5 1),
    ("resources", (Allotment.ofResources spec.resources).requirements.json),
    ("securityContext", .ofOption (spec.securityContext.map (·.json)))]

/-- The pods of the cache. -/
def memcachedTemplate (parent : HealthService) (images : OperandImages) : Json :=
  let spec := parent.spec.memcached
  .object [
    ("metadata", templateMetadata (memcachedLabels parent)),
    ("spec", .object [
      ("containers", .array [memcachedContainer parent images]),
      ("hostIPC", .bool false),
      ("hostNetwork", .bool false),
      ("hostPID", .bool false),
      ("nodeSelector", .ofOption (spec.nodeSelector.map .ofLabels)),
      ("serviceAccountName",
        .text (serviceAccount spec.serviceAccountName "healthcheck-memcached")),
      ("tolerations", .ofOption (spec.tolerations.map Document.encodeList))])]

/-- The cache as a deployment. -/
def memcachedDeployment (parent : HealthService) (images : OperandImages) :
    Except Error (Child .deployment) := do
  let name ← memcachedName parent
  let ns ← parentNs parent
  return .of .deployment (metadata name ns (memcachedLabels parent)) (.object [
    ("spec", .object (replicated (replicas parent.spec.memcached.replicaCount)
      (memcachedLabels parent) (memcachedTemplate parent images)))])

/-- The cache as a stateful set that the headless service governs. -/
def memcachedStatefulSet (parent : HealthService) (images : OperandImages) :
    Except Error (Child .statefulSet) := do
  let name ← memcachedName parent
  let ns ← parentNs parent
  return .of .statefulSet (metadata name ns (memcachedLabels parent)) (.object [
    ("spec", .object (("serviceName", .text memcachedServiceName) ::
      replicated (replicas parent.spec.memcached.replicaCount) (memcachedLabels parent)
        (memcachedTemplate parent images)))])

/-- The headless service in front of the cache. -/
def memcachedService (parent : HealthService) : Except Error (Child .service) := do
  let name ← memcachedName parent
  let ns ← parentNs parent
  let labels := memcachedLabels parent
  return .of .service (metadata memcachedServiceName ns labels) (.object [
    ("spec", .object [
      ("clusterIP", .text "None"),
      ("ports", .array [.object [
        ("name", .text name),
        ("port", .int memcachedPort),
        ("targetPort", .text name)]]),
      ("selector", .ofLabels labels)])])

end Build

end Caretaker
