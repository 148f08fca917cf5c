import Caretaker.Build.Memcached

/-!
# The health check service of a health service

A configuration taken from a template, a deployment that reads it, an HTTP service and a route.
-/

namespace Caretaker

namespace Build

/-- The path that routes to the health check service. -/
def healthPath : String := "/cluster-health/"

/-- The path on which the health check service is checked. -/
def healthProbePath : String := "/v1alpha1/health"

/-- The directory of the configuration in the container. -/
def healthConfigDir : String := "/etc/health"

/-- The file of the configuration. -/
def healthConfigFile : String := "cpnames.yaml"

/-- The volume of the configuration. -/
def healthConfigVolume : String := "cluster-healthcheck-data"

/-- The volume of temporary files. -/
def temporaryVolume : String := "tmp-volume"

/-- The mode of the configuration file: all rights for the owner, read access for others. -/
def healthConfigMode : Int := 0o744

/-- How long a pod may take to stop. -/
def gracePeriodSeconds : Int := 60

/-- The labels of the health check service and of its pods. -/
def healthLabels (parent : HealthService) : LabelMap :=
  labels parent.spec.healthService.name parent.metadata.nameAny

/-- The name of the health check service, which must not be blank. -/
def healthName (parent : HealthService) : Except Error String :=
  nonBlank parent.spec.healthService.name "spec.healthService.name"

/-- The name of the configuration, which must not be blank. -/
def healthConfigName (parent : HealthService) : Except Error String :=
  nonBlank parent.spec.healthService.configmapName "spec.healthService.configmapName"

/-- The configuration: the template under the name and labels of the parent. -/
def healthConfigMap (parent : HealthService) (template : Except Error (Child .configMap)) :
    Except Error (Child .configMap) := do
  let _ ← healthName parent
  let configName ← healthConfigName parent
  let ns ← parentNs parent
  let base ← template
  return { base with
    metadata := { base.metadata with
      name := some configName
      ns := some ns
      labels := some (healthLabels parent) } }

/-- The environment of the health check service. -/
def healthEnv (parent : HealthService) : List Json :=
  let spec := parent.spec.healthService
  [ envNs "HEALTHNAMESPACE",
    envValue "CPNAMESCONFIGPATH" (healthConfigDir ++ "/" ++ healthConfigFile),
    envValue "LOGLEVEL" "1",
    envValue "MEMCACHEDPORT" (toString memcachedPort),
    envValue "CLOUDPAKNAME_SETTING" spec.cloudpakNameSetting,
    envValue "SERVICENAME_SETTING" spec.serviceNameSetting,
    envValue "DEPENDS_SETTING" spec.dependsSetting ]

/-- The container of the health check service. -/
def healthContainer (parent : HealthService) (images : OperandImages) : Json :=
  let spec := parent.spec.healthService
  .object [
    ("env", .array (healthEnv parent)),
    ("image", .text (spec.image.operandReference .healthService images)),
    ("imagePullPolicy", .text (pullPolicy spec.image.pullPolicy)),
    ("livenessProbe", httpProbe healthProbePath 3),
    ("name", .text spec.name),
    ("readinessProbe", httpProbe healthProbePath 1),
    ("resources", (Allotment.ofResources spec.resources).requirements.json),
    ("securityContext", .ofOption (spec.securityContext.map (·.json))),
    ("volumeMounts", .array [
      mount healthConfigVolume healthConfigDir,
      mount temporaryVolume "/tmp"])]

/-- The pods of the health check service. -/
def healthTemplate (parent : HealthService) (images : OperandImages) : Json :=
  let spec := parent.spec.healthService
  .object [
    ("metadata", templateMetadata (healthLabels parent)),
    ("spec", .object [
      ("containers", .array [healthContainer parent images]),
      ("hostIPC", .bool false),
      ("hostNetwork", .bool spec.hostNetwork),
      ("hostPID", .bool false),
      ("nodeSelector", .ofOption (spec.nodeSelector.map .ofLabels)),
      ("serviceAccountName", .text (serviceAccount spec.serviceAccountName "healthcheck-service")),
      ("terminationGracePeriodSeconds", .int gracePeriodSeconds),
      ("tolerations", .ofOption (spec.tolerations.map Document.encodeList)),
      ("volumes", .array [
        .object [("emptyDir", .object []), ("name", .text temporaryVolume)],
        .object [
          ("configMap", .object [
            ("defaultMode", .int healthConfigMode),
            ("items", .array [.object [
              ("key", .text healthConfigFile),
              ("path", .text healthConfigFile)]]),
            ("name", .text spec.configmapName)]),
          ("name", .text healthConfigVolume)]])])]

/-- The deployment of the health check service. -/
def healthDeployment (parent : HealthService) (images : OperandImages) :
    Except Error (Child .deployment) := do
  let name ← healthName parent
  let _ ← healthConfigName parent
  let ns ← parentNs parent
  return .of .deployment (metadata name ns (healthLabels parent)) (.object [
    ("spec", .object (("minReadySeconds", .int 0) ::
      replicated (replicas parent.spec.healthService.replicaCount) (healthLabels parent)
        (healthTemplate parent images)))])

/-- The HTTP service of the health check service. -/
def healthService (parent : HealthService) : Except Error (Child .service) := do
  let name ← healthName parent
  let ns ← parentNs parent
  return httpService name ns (healthLabels parent)

/-- The route to the health check service. -/
def healthIngress (parent : HealthService) : Except Error (Child .ingress) := do
  let name ← healthName parent
  let ns ← parentNs parent
  return httpIngress name ns (healthLabels parent) healthPath

end Build

end Caretaker
