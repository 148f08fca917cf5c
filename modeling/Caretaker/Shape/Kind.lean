import Caretaker.Shape.Pod

/-!
# Shapes of the kinds of objects

What a document of each kind holds besides its API version, its kind and its metadata.  Fields are
listed in ascending order of their names.
-/

namespace Caretaker

namespace Shape

/-- A deployment: identical pods that are replaced gradually. -/
def deployment : Shape := .record [
  optional "spec" (.record [
    optional "minReadySeconds" .int32,
    optional "paused" .flag,
    optional "progressDeadlineSeconds" .int32,
    optional "replicas" .int32,
    optional "revisionHistoryLimit" .int32,
    required "selector" labelSelector,
    optional "strategy" (.record [
      optional "rollingUpdate" (.record [
        optional "maxSurge" .textOrInt32,
        optional "maxUnavailable" .textOrInt32]),
      optional "type" .text]),
    required "template" podTemplate]),
  optional "status" (.record [
    optional "availableReplicas" .int32,
    optional "collisionCount" .int32,
    optional "conditions" (.list (condition ["lastTransitionTime", "lastUpdateTime"])),
    optional "observedGeneration" .int64,
    optional "readyReplicas" .int32,
    optional "replicas" .int32,
    optional "terminatingReplicas" .int32,
    optional "unavailableReplicas" .int32,
    optional "updatedReplicas" .int32])]

/-- A stateful set: pods with an identity. -/
def statefulSet : Shape := .record [
  optional "spec" (.record [
    optional "minReadySeconds" .int32,
    optional "ordinals" (.record [optional "start" .int32]),
    optional "persistentVolumeClaimRetentionPolicy" (.record [
      optional "whenDeleted" .text,
      optional "whenScaled" .text]),
    optional "podManagementPolicy" .text,
    optional "replicas" .int32,
    optional "revisionHistoryLimit" .int32,
    required "selector" labelSelector,
    optional "serviceName" .text,
    required "template" podTemplate,
    optional "updateStrategy" (.record [
      optional "rollingUpdate" (.record [
        optional "maxUnavailable" .textOrInt32,
        optional "partition" .int32]),
      optional "type" .text]),
    optional "volumeClaimTemplates" (.list claimTemplate)]),
  optional "status" (.record [
    optional "availableReplicas" .int32,
    optional "collisionCount" .int32,
    optional "conditions" (.list (condition ["lastTransitionTime"])),
    optional "currentReplicas" .int32,
    optional "currentRevision" .text,
    optional "observedGeneration" .int64,
    optional "readyReplicas" .int32,
    required "replicas" .int32,
    optional "updateRevision" .text,
    optional "updatedReplicas" .int32])]

/-- The addresses of a load balancer, with more fields. -/
def loadBalancer (more : Fields) : Shape := .record [
  optional "ingress" (.list (.record ([
    optional "hostname" .text,
    optional "ip" .text] ++ more ++ [
    optional "ports" (.list (.record [
      optional "error" .text,
      required "port" .int32,
      required "protocol" .text]))])))]

/-- A service: one address for a set of pods. -/
def service : Shape := .record [
  optional "spec" (.record [
    optional "allocateLoadBalancerNodePorts" .flag,
    optional "clusterIP" .text,
    optional "clusterIPs" (.list .text),
    optional "externalIPs" (.list .text),
    optional "externalName" .text,
    optional "externalTrafficPolicy" .text,
    optional "healthCheckNodePort" .int32,
    optional "internalTrafficPolicy" .text,
    optional "ipFamilies" (.list .text),
    optional "ipFamilyPolicy" .text,
    optional "loadBalancerClass" .text,
    optional "loadBalancerIP" .text,
    optional "loadBalancerSourceRanges" (.list .text),
    optional "ports" (.list (.record [
      optional "appProtocol" .text,
      optional "name" .text,
      optional "nodePort" .int32,
      required "port" .int32,
      optional "protocol" .text,
      optional "targetPort" .textOrInt32])),
    optional "publishNotReadyAddresses" .flag,
    optional "selector" texts,
    optional "sessionAffinity" .text,
    optional "sessionAffinityConfig" (.record [
      optional "clientIP" (.record [optional "timeoutSeconds" .int32])]),
    optional "trafficDistribution" .text,
    optional "type" .text]),
  optional "status" (.record [
    optional "conditions" (.list (.record [
      required "lastTransitionTime" .time,
      required "message" .text,
      optional "observedGeneration" .int64,
      required "reason" .text,
      required "status" .text,
      required "type" .text])),
    optional "loadBalancer" (loadBalancer [optional "ipMode" .text])])]

/-- What an ingress sends requests to. -/
def ingressBackend : Shape := .record [
  optional "resource" (.record [
    optional "apiGroup" .text,
    required "kind" .text,
    required "name" .text]),
  optional "service" (.record [
    required "name" .text,
    optional "port" (.record [
      optional "name" .text,
      optional "number" .int32])])]

/-- An ingress: routes from outside the cluster. -/
def ingress : Shape := .record [
  optional "spec" (.record [
    optional "defaultBackend" ingressBackend,
    optional "ingressClassName" .text,
    optional "rules" (.list (.record [
      optional "host" .text,
      optional "http" (.record [
        required "paths" (.list (.record [
          required "backend" ingressBackend,
          optional "path" .text,
          required "pathType" .text]))])])),
    optional "tls" (.list (.record [
      optional "hosts" (.list .text),
      optional "secretName" .text]))]),
  optional "status" (.record [
    optional "loadBalancer" (loadBalancer [])])]

/-- A config map: texts and bytes under keys. -/
def configMap : Shape := .record [
  optional "binaryData" (.map .base64),
  optional "data" texts,
  optional "immutable" .flag]

/-- When a job gives up. -/
def podFailurePolicy : Shape := .record [
  required "rules" (.list (.record [
    required "action" .text,
    optional "onExitCodes" (.record [
      optional "containerName" .text,
      required "operator" .text,
      required "values" (.list .int32)]),
    optional "onPodConditions" (.list (.record [
      required "status" .text,
      required "type" .text]))]))]

/-- A job: pods that run to completion. -/
def job : Shape := .record [
  optional "spec" (.record [
    optional "activeDeadlineSeconds" .int64,
    optional "backoffLimit" .int32,
    optional "backoffLimitPerIndex" .int32,
    optional "completionMode" .text,
    optional "completions" .int32,
    optional "managedBy" .text,
    optional "manualSelector" .flag,
    optional "maxFailedIndexes" .int32,
    optional "parallelism" .int32,
    optional "podFailurePolicy" podFailurePolicy,
    optional "podReplacementPolicy" .text,
    optional "selector" labelSelector,
    optional "successPolicy" (.record [
      required "rules" (.list (.record [
        optional "succeededCount" .int32,
        optional "succeededIndexes" .text]))]),
    optional "suspend" .flag,
    required "template" podTemplate,
    optional "ttlSecondsAfterFinished" .int32]),
  optional "status" (.record [
    optional "active" .int32,
    optional "completedIndexes" .text,
    optional "completionTime" .time,
    optional "conditions" (.list (condition ["lastProbeTime", "lastTransitionTime"])),
    optional "failed" .int32,
    optional "failedIndexes" .text,
    optional "ready" .int32,
    optional "startTime" .time,
    optional "succeeded" .int32,
    optional "terminating" .int32,
    optional "uncountedTerminatedPods" (.record [
      optional "failed" (.list .text),
      optional "succeeded" (.list .text)])])]

/-- A class of storage that claims may name. -/
def storageClass : Shape := .record [
  optional "allowVolumeExpansion" .flag,
  optional "allowedTopologies" (.list (.record [
    optional "matchLabelExpressions" (.list (.record [
      required "key" .text,
      required "values" (.list .text)]))])),
  optional "mountOptions" (.list .text),
  optional "parameters" texts,
  required "provisioner" .text,
  optional "reclaimPolicy" .text,
  optional "volumeBindingMode" .text]

end Shape

end Caretaker
