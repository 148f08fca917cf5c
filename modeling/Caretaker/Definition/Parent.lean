import Caretaker.Definition.Schema
import Caretaker.Kind
import Caretaker.Parent.HealthService
import Caretaker.Parent.MustGather

/-!
# Schemas of the parents

What users may write into the objects of each parent kind.  A field that is written even when it is
empty has its empty value as its default; a field that is left out when it is empty has none.
-/

namespace Caretaker

namespace Schema

/-- A text that is empty unless given. -/
def emptyText : Schema := defaulted (.text "") text

/-- A text that may be left unset. -/
def unsetText : Schema := nullable text

/-- A number that is zero unless given. -/
def zero : Schema := defaulted (.int 0) int32

/-- A flag that is down unless given. -/
def down : Schema := defaulted (.bool false) flag

/-- The number of pods. -/
def replicas : Schema := described "replicas, 0 or unset means 1" zero

/-- The labels of the nodes that pods run on. -/
def nodeSelector : Schema := nullable (map text)

/-- The taints that pods tolerate. -/
def tolerations : Schema := nullable (list (ofShape Shape.toleration))

/-- What a container may do. -/
def securityContext : Schema := nullable (ofShape Shape.securityContext)

/-- An image. -/
def image (purpose : String) : Schema :=
  described purpose <| defaulted (ImageSpec.encode {}) <| record [] [
    ("pullPolicy", described "image pull policy, default is IfNotPresent" unsetText),
    ("repository", described "image repository, default is empty" emptyText),
    ("tag", described "image tag or `sha256:` digest, default is empty" emptyText)]

/-- An image that the environment should name instead. -/
def deprecatedImage : Schema :=
  image "deprecated, define the image through the operator environment"

/-- A pair of amounts. -/
def amounts : Schema :=
  described "Raw cpu/memory strings as written by the user. Empty means unset." <|
    defaulted (ResourceSpec.encode {}) <| record [] [("cpu", text), ("memory", text)]

/-- What a container asks for and what it is limited to. -/
def resources : Schema :=
  defaulted (Resources.encode {}) <| record [] [("limits", amounts), ("requests", amounts)]

/-- A list of pods in a status. -/
def podNames (purpose : String) : Schema := described purpose (list text)

/-- The cache of a health service. -/
def memcached : Schema := defaulted (MemcachedSpec.encode {}) <| record [] [
  ("command", described "startup command, default is `memcached -m 64 -o modern -v`" <|
    nullable (list text)),
  ("image", deprecatedImage),
  ("name", described "memcached workload name" emptyText),
  ("nodeSelector", nodeSelector),
  ("replicaCount", replicas),
  ("resources", resources),
  ("securityContext", securityContext),
  ("serviceAccountName", unsetText),
  ("tolerations", tolerations),
  ("workload", described "workload kind, default is Deployment" <|
    defaulted (.text MemcachedWorkload.deployment.name) <|
      choice [MemcachedWorkload.deployment.name, MemcachedWorkload.statefulSet.name])]

/-- The health check service of a health service. -/
def healthCheck : Schema := defaulted (HealthCheckSpec.encode {}) <| record [] [
  ("cloudpakNameSetting",
    described "label/annotation used to read a pod's cloudpak name" emptyText),
  ("configmapName",
    described "config map holding the health service configuration files" emptyText),
  ("dependsSetting", described "label/annotation used to read a pod's dependencies" emptyText),
  ("hostNetwork", down),
  ("image", deprecatedImage),
  ("name", described "health service deployment name" emptyText),
  ("nodeSelector", nodeSelector),
  ("replicaCount", replicas),
  ("resources", resources),
  ("securityContext", securityContext),
  ("serviceAccountName", unsetText),
  ("serviceNameSetting",
    described "label/annotation used to read a pod's service name" emptyText),
  ("tolerations", tolerations)]

/-- The workload of a must-gather service. -/
def mustGather : Schema := defaulted (MustGatherSpec.encode {}) <| record [] [
  ("command", described "startup command, default is `/bin/must-gather-service -v 1`" <|
    nullable (list text)),
  ("hostNetwork", down),
  ("image", deprecatedImage),
  ("name", described "must-gather service deployment name" emptyText),
  ("nodeSelector", nodeSelector),
  ("replicas", replicas),
  ("resources", resources),
  ("securityContext", securityContext),
  ("serviceAccountName", unsetText),
  ("tolerations", tolerations)]

/-- The claim of a must-gather service. -/
def claim : Schema := defaulted (ClaimSpec.encode {}) <| record [] [
  ("name", emptyText),
  ("resources", described "requested storage size, default is 2Gi" <|
    nullable (ofShape Shape.resourceRequirements)),
  ("storageClassName", described "default is the cluster's default storage class" unsetText)]

/-- What users may write into the specification of a parent. -/
def spec : ParentKind → Schema
  | .healthService => record [] [("healthService", healthCheck), ("memcached", memcached)]
  | .mustGatherService => record [] [("mustGather", mustGather), ("persistentVolumeClaim", claim)]
  | .mustGatherJob => record [] [
    ("image", image "overrides MUST_GATHER_IMAGE when both repository and tag are set"),
    ("mustGatherCommand",
      described "space separated command line, default is `gather`" unsetText),
    ("mustGatherConfigName",
      described "config map mounted as the gather configuration for the default command"
        unsetText),
    ("serviceAccountName", unsetText)]
  | .mustGatherConfig => record [] [
    ("gatherConfig", described "body of the `gather_config` file" emptyText)]

/-- What the status of a parent holds, if its kind has one. -/
def status? : ParentKind → Option Schema
  | .healthService => some <| nullable <| record [] [
    ("healthCheckNodes", podNames "Names of the health service pods"),
    ("memcachedNodes", podNames "Names of the memcached pods")]
  | .mustGatherService => some <| nullable <| record [] [
    ("mustGatherServiceNodes", podNames "Names of the must-gather service pods")]
  | .mustGatherJob | .mustGatherConfig => none

end Schema

end Caretaker
