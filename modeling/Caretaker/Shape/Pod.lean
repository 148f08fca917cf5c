import Caretaker.Shape.Volume

/-!
# Shapes of pods

Where a pod may run and next to which others, what it is made of, and what its status reports.
Fields are listed in ascending order of their names.
-/

namespace Caretaker

namespace Shape

/-- A taint that a pod tolerates. -/
def toleration : Shape := .record [
  optional "effect" .text,
  optional "key" .text,
  optional "operator" .text,
  optional "tolerationSeconds" .int64,
  optional "value" .text]

/-- Nodes that a pod may be placed on. -/
def nodeSelectorTerm : Shape :=
  let requirements : Shape := .list (.record [
    required "key" .text,
    required "operator" .text,
    optional "values" (.list .text)])
  .record [
    optional "matchExpressions" requirements,
    optional "matchFields" requirements]

/-- Required and preferred nodes of a pod. -/
def nodeAffinity : Shape := .record [
  optional "preferredDuringSchedulingIgnoredDuringExecution" (.list (.record [
    required "preference" nodeSelectorTerm,
    required "weight" .int32])),
  optional "requiredDuringSchedulingIgnoredDuringExecution" (.record [
    required "nodeSelectorTerms" (.list nodeSelectorTerm)])]

/-- Pods that another pod is placed next to, or away from. -/
def podAffinityTerm : Shape := .record [
  optional "labelSelector" labelSelector,
  optional "matchLabelKeys" (.list .text),
  optional "mismatchLabelKeys" (.list .text),
  optional "namespaceSelector" labelSelector,
  optional "namespaces" (.list .text),
  required "topologyKey" .text]

/-- Required and preferred neighbours of a pod. -/
def podAffinity : Shape := .record [
  optional "preferredDuringSchedulingIgnoredDuringExecution" (.list (.record [
    required "podAffinityTerm" podAffinityTerm,
    required "weight" .int32])),
  optional "requiredDuringSchedulingIgnoredDuringExecution" (.list podAffinityTerm)]

/-- How evenly pods are spread. -/
def spreadConstraint : Shape := .record [
  optional "labelSelector" labelSelector,
  optional "matchLabelKeys" (.list .text),
  required "maxSkew" .int32,
  optional "minDomains" .int32,
  optional "nodeAffinityPolicy" .text,
  optional "nodeTaintsPolicy" .text,
  required "topologyKey" .text,
  required "whenUnsatisfiable" .text]

/-- The privileges that all containers of a pod share. -/
def podSecurityContext : Shape := .record [
  optional "appArmorProfile" confinementProfile,
  optional "fsGroup" .int64,
  optional "fsGroupChangePolicy" .text,
  optional "runAsGroup" .int64,
  optional "runAsNonRoot" .flag,
  optional "runAsUser" .int64,
  optional "seLinuxChangePolicy" .text,
  optional "seLinuxOptions" seLinuxOptions,
  optional "seccompProfile" confinementProfile,
  optional "supplementalGroups" (.list .int64),
  optional "supplementalGroupsPolicy" .text,
  optional "sysctls" (.list (.record [
    required "name" .text,
    required "value" .text])),
  optional "windowsOptions" windowsOptions]

/-- The specification of a pod. -/
def podSpec : Shape := .record [
  optional "activeDeadlineSeconds" .int64,
  optional "affinity" (.record [
    optional "nodeAffinity" nodeAffinity,
    optional "podAffinity" podAffinity,
    optional "podAntiAffinity" podAffinity]),
  optional "automountServiceAccountToken" .flag,
  required "containers" (.list container),
  optional "dnsConfig" (.record [
    optional "nameservers" (.list .text),
    optional "options" (.list (.record [
      optional "name" .text,
      optional "value" .text])),
    optional "searches" (.list .text)]),
  optional "dnsPolicy" .text,
  optional "enableServiceLinks" .flag,
  optional "ephemeralContainers" (.list ephemeralContainer),
  optional "hostAliases" (.list (.record [
    optional "hostnames" (.list .text),
    required "ip" .text])),
  optional "hostIPC" .flag,
  optional "hostNetwork" .flag,
  optional "hostPID" .flag,
  optional "hostUsers" .flag,
  optional "hostname" .text,
  optional "imagePullSecrets" (.list localObject),
  optional "initContainers" (.list container),
  optional "nodeName" .text,
  optional "nodeSelector" texts,
  optional "os" (.record [required "name" .text]),
  optional "overhead" texts,
  optional "preemptionPolicy" .text,
  optional "priority" .int32,
  optional "priorityClassName" .text,
  optional "readinessGates" (.list (.record [required "conditionType" .text])),
  optional "resourceClaims" (.list (.record [
    required "name" .text,
    optional "resourceClaimName" .text,
    optional "resourceClaimTemplateName" .text])),
  optional "resources" resourceRequirements,
  optional "restartPolicy" .text,
  optional "runtimeClassName" .text,
  optional "schedulerName" .text,
  optional "schedulingGates" (.list (.record [required "name" .text])),
  optional "securityContext" podSecurityContext,
  optional "serviceAccount" .text,
  optional "serviceAccountName" .text,
  optional "setHostnameAsFQDN" .flag,
  optional "shareProcessNamespace" .flag,
  optional "subdomain" .text,
  optional "terminationGracePeriodSeconds" .int64,
  optional "tolerations" (.list toleration),
  optional "topologySpreadConstraints" (.list spreadConstraint),
  optional "volumes" (.list volume)]

/-- The template of a pod. -/
def podTemplate : Shape := .record [
  optional "metadata" metadata,
  optional "spec" podSpec]

/-- What became of a pod. -/
def podStatus : Shape := .record [
  optional "conditions" (.list (.record [
    optional "lastProbeTime" .time,
    optional "lastTransitionTime" .time,
    optional "message" .text,
    optional "observedGeneration" .int64,
    optional "reason" .text,
    required "status" .text,
    required "type" .text])),
  optional "containerStatuses" (.list containerStatus),
  optional "ephemeralContainerStatuses" (.list containerStatus),
  optional "hostIP" .text,
  optional "hostIPs" (.list (.record [required "ip" .text])),
  optional "initContainerStatuses" (.list containerStatus),
  optional "message" .text,
  optional "nominatedNodeName" .text,
  optional "observedGeneration" .int64,
  optional "phase" .text,
  optional "podIP" .text,
  optional "podIPs" (.list (.record [required "ip" .text])),
  optional "qosClass" .text,
  optional "reason" .text,
  optional "resize" .text,
  optional "resourceClaimStatuses" (.list (.record [
    required "name" .text,
    optional "resourceClaimName" .text])),
  optional "startTime" .time]

/-- A pod. -/
def pod : Shape := .record [
  optional "spec" podSpec,
  optional "status" podStatus]

end Shape

end Caretaker
