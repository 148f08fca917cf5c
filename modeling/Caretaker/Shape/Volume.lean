import Caretaker.Shape.Claim
import Caretaker.Shape.Container

/-!
# Shapes of volumes

What a pod may mount: files made from other objects, disks of a provider, file systems of a network.
Fields are listed in ascending order of their names.
-/

namespace Caretaker

namespace Shape

/-- The files that a volume takes from the keys of a config map or of a secret. -/
def keyToPath : Shape := .record [
  required "key" .text,
  optional "mode" .int32,
  required "path" .text]

/-- Files that tell of the pod itself. -/
def downwardFiles : Shape := .list (.record [
  optional "fieldRef" fieldSelector,
  optional "mode" .int32,
  required "path" .text,
  optional "resourceFieldRef" resourceSelector])

/-- One of several objects whose files a volume unites. -/
def projection : Shape := .record [
  optional "clusterTrustBundle" (.record [
    optional "labelSelector" labelSelector,
    optional "name" .text,
    optional "optional" .flag,
    required "path" .text,
    optional "signerName" .text]),
  optional "configMap" (.record [
    optional "items" (.list keyToPath),
    required "name" .text,
    optional "optional" .flag]),
  optional "downwardAPI" (.record [
    optional "items" downwardFiles]),
  optional "secret" (.record [
    optional "items" (.list keyToPath),
    required "name" .text,
    optional "optional" .flag]),
  optional "serviceAccountToken" (.record [
    optional "audience" .text,
    optional "expirationSeconds" .int64,
    required "path" .text])]

/-- A volume of a pod. -/
def volume : Shape := .record [
  optional "awsElasticBlockStore" (.record [
    optional "fsType" .text,
    optional "partition" .int32,
    optional "readOnly" .flag,
    required "volumeID" .text]),
  optional "azureDisk" (.record [
    optional "cachingMode" .text,
    required "diskName" .text,
    required "diskURI" .text,
    optional "fsType" .text,
    optional "kind" .text,
    optional "readOnly" .flag]),
  optional "azureFile" (.record [
    optional "readOnly" .flag,
    required "secretName" .text,
    required "shareName" .text]),
  optional "cephfs" (.record [
    required "monitors" (.list .text),
    optional "path" .text,
    optional "readOnly" .flag,
    optional "secretFile" .text,
    optional "secretRef" localObject,
    optional "user" .text]),
  optional "cinder" (.record [
    optional "fsType" .text,
    optional "readOnly" .flag,
    optional "secretRef" localObject,
    required "volumeID" .text]),
  optional "configMap" (.record [
    optional "defaultMode" .int32,
    optional "items" (.list keyToPath),
    required "name" .text,
    optional "optional" .flag]),
  optional "csi" (.record [
    required "driver" .text,
    optional "fsType" .text,
    optional "nodePublishSecretRef" localObject,
    optional "readOnly" .flag,
    optional "volumeAttributes" texts]),
  optional "downwardAPI" (.record [
    optional "defaultMode" .int32,
    optional "items" downwardFiles]),
  optional "emptyDir" (.record [
    optional "medium" .text,
    optional "sizeLimit" .text]),
  optional "ephemeral" (.record [
    optional "volumeClaimTemplate" (.record [
      optional "metadata" metadata,
      required "spec" claimSpec])]),
  optional "fc" (.record [
    optional "fsType" .text,
    optional "lun" .int32,
    optional "readOnly" .flag,
    optional "targetWWNs" (.list .text),
    optional "wwids" (.list .text)]),
  optional "flexVolume" (.record [
    required "driver" .text,
    optional "fsType" .text,
    optional "options" texts,
    optional "readOnly" .flag,
    optional "secretRef" localObject]),
  optional "flocker" (.record [
    optional "datasetName" .text,
    optional "datasetUUID" .text]),
  optional "gcePersistentDisk" (.record [
    optional "fsType" .text,
    optional "partition" .int32,
    required "pdName" .text,
    optional "readOnly" .flag]),
  optional "gitRepo" (.record [
    optional "directory" .text,
    required "repository" .text,
    optional "revision" .text]),
  optional "glusterfs" (.record [
    required "endpoints" .text,
    required "path" .text,
    optional "readOnly" .flag]),
  optional "hostPath" (.record [
    required "path" .text,
    optional "type" .text]),
  optional "image" (.record [
    optional "pullPolicy" .text,
    optional "reference" .text]),
  optional "iscsi" (.record [
    optional "chapAuthDiscovery" .flag,
    optional "chapAuthSession" .flag,
    optional "fsType" .text,
    optional "initiatorName" .text,
    required "iqn" .text,
    optional "iscsiInterface" .text,
    required "lun" .int32,
    optional "portals" (.list .text),
    optional "readOnly" .flag,
    optional "secretRef" localObject,
    required "targetPortal" .text]),
  required "name" .text,
  optional "nfs" (.record [
    required "path" .text,
    optional "readOnly" .flag,
    required "server" .text]),
  optional "persistentVolumeClaim" (.record [
    required "claimName" .text,
    optional "readOnly" .flag]),
  optional "photonPersistentDisk" (.record [
    optional "fsType" .text,
    required "pdID" .text]),
  optional "portworxVolume" (.record [
    optional "fsType" .text,
    optional "readOnly" .flag,
    required "volumeID" .text]),
  optional "projected" (.record [
    optional "defaultMode" .int32,
    optional "sources" (.list projection)]),
  optional "quobyte" (.record [
    optional "group" .text,
    optional "readOnly" .flag,
    required "registry" .text,
    optional "tenant" .text,
    optional "user" .text,
    required "volume" .text]),
  optional "rbd" (.record [
    optional "fsType" .text,
    required "image" .text,
    optional "keyring" .text,
    required "monitors" (.list .text),
    optional "pool" .text,
    optional "readOnly" .flag,
    optional "secretRef" localObject,
    optional "user" .text]),
  optional "scaleIO" (.record [
    optional "fsType" .text,
    required "gateway" .text,
    optional "protectionDomain" .text,
    optional "readOnly" .flag,
    required "secretRef" localObject,
    optional "sslEnabled" .flag,
    optional "storageMode" .text,
    optional "storagePool" .text,
    required "system" .text,
    optional "volumeName" .text]),
  optional "secret" (.record [
    optional "defaultMode" .int32,
    optional "items" (.list keyToPath),
    optional "optional" .flag,
    optional "secretName" .text]),
  optional "storageos" (.record [
    optional "fsType" .text,
    optional "readOnly" .flag,
    optional "secretRef" localObject,
    optional "volumeName" .text,
    optional "volumeNamespace" .text]),
  optional "vsphereVolume" (.record [
    optional "fsType" .text,
    optional "storagePolicyID" .text,
    optional "storagePolicyName" .text,
    required "volumePath" .text])]

end Shape

end Caretaker
