import Caretaker.Shape.Metadata

/-!
# Shapes of containers

What a container runs, with which privileges and resources, how its health is checked, and what a
status reports of it.  Fields are listed in ascending order of their names.
-/

namespace Caretaker

namespace Shape

/-- A profile of system calls or of access control. -/
def confinementProfile : Shape := .record [
  optional "localhostProfile" .text,
  required "type" .text]

/-- The labels of a security module. -/
def seLinuxOptions : Shape := .record [
  optional "level" .text,
  optional "role" .text,
  optional "type" .text,
  optional "user" .text]

/-- What only concerns containers on Windows. -/
def windowsOptions : Shape := .record [
  optional "gmsaCredentialSpec" .text,
  optional "gmsaCredentialSpecName" .text,
  optional "hostProcess" .flag,
  optional "runAsUserName" .text]

/-- The privileges of a container. -/
def securityContext : Shape := .record [
  optional "allowPrivilegeEscalation" .flag,
  optional "appArmorProfile" confinementProfile,
  optional "capabilities" (.record [
    optional "add" (.list .text),
    optional "drop" (.list .text)]),
  optional "privileged" .flag,
  optional "procMount" .text,
  optional "readOnlyRootFilesystem" .flag,
  optional "runAsGroup" .int64,
  optional "runAsNonRoot" .flag,
  optional "runAsUser" .int64,
  optional "seLinuxOptions" seLinuxOptions,
  optional "seccompProfile" confinementProfile,
  optional "windowsOptions" windowsOptions]

/-- The resources that a container asks for and is limited to. -/
def resourceRequirements : Shape := .record [
  optional "claims" (.list (.record [
    required "name" .text,
    optional "request" .text])),
  optional "limits" texts,
  optional "requests" texts]

/-- A command to run in a container. -/
def execAction : Shape := .record [optional "command" (.list .text)]

/-- A request to a container. -/
def httpGetAction : Shape := .record [
  optional "host" .text,
  optional "httpHeaders" (.list (.record [
    required "name" .text,
    required "value" .text])),
  optional "path" .text,
  required "port" .textOrInt32,
  optional "scheme" .text]

/-- A connection to a container. -/
def tcpSocketAction : Shape := .record [
  optional "host" .text,
  required "port" .textOrInt32]

/-- A check of a container's health. -/
def probe : Shape := .record [
  optional "exec" execAction,
  optional "failureThreshold" .int32,
  optional "grpc" (.record [
    required "port" .int32,
    optional "service" .text]),
  optional "httpGet" httpGetAction,
  optional "initialDelaySeconds" .int32,
  optional "periodSeconds" .int32,
  optional "successThreshold" .int32,
  optional "tcpSocket" tcpSocketAction,
  optional "terminationGracePeriodSeconds" .int64,
  optional "timeoutSeconds" .int32]

/-- What happens after the start of a container or before its end. -/
def lifecycleHandler : Shape := .record [
  optional "exec" execAction,
  optional "httpGet" httpGetAction,
  optional "sleep" (.record [required "seconds" .int64]),
  optional "tcpSocket" tcpSocketAction]

/-- A key of a config map or of a secret. -/
def keySelector : Shape := .record [
  required "key" .text,
  required "name" .text,
  optional "optional" .flag]

/-- A field of the pod. -/
def fieldSelector : Shape := .record [
  optional "apiVersion" .text,
  required "fieldPath" .text]

/-- A resource of a container. -/
def resourceSelector : Shape := .record [
  optional "containerName" .text,
  optional "divisor" .text,
  required "resource" .text]

/-- An environment variable. -/
def envVar : Shape := .record [
  required "name" .text,
  optional "value" .text,
  optional "valueFrom" (.record [
    optional "configMapKeyRef" keySelector,
    optional "fieldRef" fieldSelector,
    optional "resourceFieldRef" resourceSelector,
    optional "secretKeyRef" keySelector])]

/-- A config map or a secret, each key of which becomes an environment variable. -/
def envSource : Shape := .record [
  required "name" .text,
  optional "optional" .flag]

/-- A port of a container. -/
def containerPort : Shape := .record [
  required "containerPort" .int32,
  optional "hostIP" .text,
  optional "hostPort" .int32,
  optional "name" .text,
  optional "protocol" .text]

/-- Where a volume appears in a container. -/
def volumeMount : Shape := .record [
  required "mountPath" .text,
  optional "mountPropagation" .text,
  required "name" .text,
  optional "readOnly" .flag,
  optional "recursiveReadOnly" .text,
  optional "subPath" .text,
  optional "subPathExpr" .text]

/-- A container of a pod, with more fields. -/
def containerWith (more : Fields) : Shape := .record ([
  optional "args" (.list .text),
  optional "command" (.list .text),
  optional "env" (.list envVar),
  optional "envFrom" (.list (.record [
    optional "configMapRef" envSource,
    optional "prefix" .text,
    optional "secretRef" envSource])),
  optional "image" .text,
  optional "imagePullPolicy" .text,
  optional "lifecycle" (.record [
    optional "postStart" lifecycleHandler,
    optional "preStop" lifecycleHandler,
    optional "stopSignal" .text]),
  optional "livenessProbe" probe,
  required "name" .text,
  optional "ports" (.list containerPort),
  optional "readinessProbe" probe,
  optional "resizePolicy" (.list (.record [
    required "resourceName" .text,
    required "restartPolicy" .text])),
  optional "resources" resourceRequirements,
  optional "restartPolicy" .text,
  optional "securityContext" securityContext,
  optional "startupProbe" probe,
  optional "stdin" .flag,
  optional "stdinOnce" .flag] ++ more ++ [
  optional "terminationMessagePath" .text,
  optional "terminationMessagePolicy" .text,
  optional "tty" .flag,
  optional "volumeDevices" (.list (.record [
    required "devicePath" .text,
    required "name" .text])),
  optional "volumeMounts" (.list volumeMount),
  optional "workingDir" .text])

/-- A container of a pod. -/
def container : Shape := containerWith []

/-- A container that is added to a running pod to look into it. -/
def ephemeralContainer : Shape := containerWith [optional "targetContainerName" .text]

/-- Whether a container waits, runs or has ended. -/
def containerState : Shape := .record [
  optional "running" (.record [optional "startedAt" .time]),
  optional "terminated" (.record [
    optional "containerID" .text,
    required "exitCode" .int32,
    optional "finishedAt" .time,
    optional "message" .text,
    optional "reason" .text,
    optional "signal" .int32,
    optional "startedAt" .time]),
  optional "waiting" (.record [
    optional "message" .text,
    optional "reason" .text])]

/-- What the status of a pod reports of a container. -/
def containerStatus : Shape := .record [
  optional "allocatedResources" texts,
  optional "allocatedResourcesStatus" (.list (.record [
    required "name" .text,
    optional "resources" (.list (.record [
      optional "health" .text,
      required "resourceID" .text]))])),
  optional "containerID" .text,
  required "image" .text,
  required "imageID" .text,
  optional "lastState" containerState,
  required "name" .text,
  required "ready" .flag,
  optional "resources" resourceRequirements,
  required "restartCount" .int32,
  optional "started" .flag,
  optional "state" containerState,
  optional "stopSignal" .text,
  optional "user" (.record [
    optional "linux" (.record [
      required "gid" .int64,
      optional "supplementalGroups" (.list .int64),
      required "uid" .int64])]),
  optional "volumeMounts" (.list (.record [
    required "mountPath" .text,
    required "name" .text,
    optional "readOnly" .flag,
    optional "recursiveReadOnly" .text]))]

end Shape

end Caretaker
