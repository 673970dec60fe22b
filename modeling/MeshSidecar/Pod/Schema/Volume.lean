import MeshSidecar.Pod.Schema.Container

namespace MeshSidecar.Schema

/-!
# Volumes

The sources that a volume can have, as the Kubernetes API of version 1.32
declares them.
-/

def localReference : Schema :=
  .record [req "name" .text]

def hostPath : Schema :=
  .record [req "path" .text, opt "type" .text]

def typedReference : Schema :=
  .record [opt "apiGroup" .text, req "kind" .text, req "name" .text]

def typedObjectReference : Schema :=
  .record [opt "apiGroup" .text, req "kind" .text, req "name" .text, opt "namespace" .text]

def claimResources : Schema :=
  .record [opt "limits" (.table .text), opt "requests" (.table .text)]

def volumeClaimSpec : Schema :=
  .record [opt "accessModes" (.list .text), opt "dataSource" typedReference,
    opt "dataSourceRef" typedObjectReference, opt "resources" claimResources,
    opt "selector" labelSelector, opt "storageClassName" .text,
    opt "volumeAttributesClassName" .text, opt "volumeMode" .text, opt "volumeName" .text]

def volumeClaimTemplate : Schema :=
  .record [opt "metadata" metadata, req "spec" volumeClaimSpec]

def downwardFile : Schema :=
  .record [opt "fieldRef" objectFieldSelector, opt "mode" (.integer 32), req "path" .text,
    opt "resourceFieldRef" resourceFieldSelector]

def clusterTrustBundle : Schema :=
  .record [opt "labelSelector" labelSelector, opt "name" .text, opt "optional" .flag,
    req "path" .text, opt "signerName" .text]

def configMapProjection : Schema :=
  .record [opt "items" (.list keyToPath), req "name" .text, opt "optional" .flag]

def tokenProjection : Schema :=
  .record [opt "audience" .text, opt "expirationSeconds" (.integer 64), req "path" .text]

def downwardProjection : Schema :=
  .record [opt "items" (.list downwardFile)]

def volumeProjection : Schema :=
  .record [opt "clusterTrustBundle" clusterTrustBundle, opt "configMap" configMapProjection,
    opt "downwardAPI" downwardProjection, opt "secret" configMapProjection,
    opt "serviceAccountToken" tokenProjection]

def awsDisk : Schema :=
  .record [opt "fsType" .text, opt "partition" (.integer 32), opt "readOnly" .flag,
    req "volumeID" .text]

def azureDisk : Schema :=
  .record [opt "cachingMode" .text, req "diskName" .text, req "diskURI" .text, opt "fsType" .text,
    opt "kind" .text, opt "readOnly" .flag]

def azureFile : Schema :=
  .record [opt "readOnly" .flag, req "secretName" .text, req "shareName" .text]

def cephfs : Schema :=
  .record [req "monitors" (.list .text), opt "path" .text, opt "readOnly" .flag,
    opt "secretFile" .text, opt "secretRef" localReference, opt "user" .text]

def cinder : Schema :=
  .record [opt "fsType" .text, opt "readOnly" .flag, opt "secretRef" localReference,
    req "volumeID" .text]

def configMapVolume : Schema :=
  .record [opt "defaultMode" (.integer 32), opt "items" (.list keyToPath), req "name" .text,
    opt "optional" .flag]

def csi : Schema :=
  .record [req "driver" .text, opt "fsType" .text, opt "nodePublishSecretRef" localReference,
    opt "readOnly" .flag, opt "volumeAttributes" (.table .text)]

def downwardVolume : Schema :=
  .record [opt "defaultMode" (.integer 32), opt "items" (.list downwardFile)]

def emptyDir : Schema :=
  .record [opt "medium" .text, opt "sizeLimit" .text]

def ephemeralVolume : Schema :=
  .record [opt "volumeClaimTemplate" volumeClaimTemplate]

def fibreChannel : Schema :=
  .record [opt "fsType" .text, opt "lun" (.integer 32), opt "readOnly" .flag,
    opt "targetWWNs" (.list .text), opt "wwids" (.list .text)]

def flexVolume : Schema :=
  .record [req "driver" .text, opt "fsType" .text, opt "options" (.table .text),
    opt "readOnly" .flag, opt "secretRef" localReference]

def flocker : Schema :=
  .record [opt "datasetName" .text, opt "datasetUUID" .text]

def gcePersistentDisk : Schema :=
  .record [opt "fsType" .text, opt "partition" (.integer 32), req "pdName" .text,
    opt "readOnly" .flag]

def gitRepo : Schema :=
  .record [opt "directory" .text, req "repository" .text, opt "revision" .text]

def glusterfs : Schema :=
  .record [req "endpoints" .text, req "path" .text, opt "readOnly" .flag]

def imageVolume : Schema :=
  .record [opt "pullPolicy" .text, opt "reference" .text]

def iscsi : Schema :=
  .record [opt "chapAuthDiscovery" .flag, opt "chapAuthSession" .flag, opt "fsType" .text,
    opt "initiatorName" .text, req "iqn" .text, opt "iscsiInterface" .text,
    req "lun" (.integer 32), opt "portals" (.list .text), opt "readOnly" .flag,
    opt "secretRef" localReference, req "targetPortal" .text]

def nfs : Schema :=
  .record [req "path" .text, opt "readOnly" .flag, req "server" .text]

def persistentVolumeClaim : Schema :=
  .record [req "claimName" .text, opt "readOnly" .flag]

def photonDisk : Schema :=
  .record [opt "fsType" .text, req "pdID" .text]

def portworx : Schema :=
  .record [opt "fsType" .text, opt "readOnly" .flag, req "volumeID" .text]

def projected : Schema :=
  .record [opt "defaultMode" (.integer 32), opt "sources" (.list volumeProjection)]

def quobyte : Schema :=
  .record [opt "group" .text, opt "readOnly" .flag, req "registry" .text, opt "tenant" .text,
    opt "user" .text, req "volume" .text]

def rbd : Schema :=
  .record [opt "fsType" .text, req "image" .text, opt "keyring" .text,
    req "monitors" (.list .text), opt "pool" .text, opt "readOnly" .flag,
    opt "secretRef" localReference, opt "user" .text]

def scaleIO : Schema :=
  .record [opt "fsType" .text, req "gateway" .text, opt "protectionDomain" .text,
    opt "readOnly" .flag, req "secretRef" localReference, opt "sslEnabled" .flag,
    opt "storageMode" .text, opt "storagePool" .text, req "system" .text, opt "volumeName" .text]

def secretVolume : Schema :=
  .record [opt "defaultMode" (.integer 32), opt "items" (.list keyToPath), opt "optional" .flag,
    opt "secretName" .text]

def storageos : Schema :=
  .record [opt "fsType" .text, opt "readOnly" .flag, opt "secretRef" localReference,
    opt "volumeName" .text, opt "volumeNamespace" .text]

def vsphereVolume : Schema :=
  .record [opt "fsType" .text, opt "storagePolicyID" .text, opt "storagePolicyName" .text,
    req "volumePath" .text]

/-- The sources of a volume other than a path of the host. -/
def volumeRest : List (String × Bool × Schema) :=
  [opt "awsElasticBlockStore" awsDisk, opt "azureDisk" azureDisk, opt "azureFile" azureFile,
   opt "cephfs" cephfs, opt "cinder" cinder, opt "configMap" configMapVolume, opt "csi" csi,
   opt "downwardAPI" downwardVolume, opt "emptyDir" emptyDir, opt "ephemeral" ephemeralVolume,
   opt "fc" fibreChannel, opt "flexVolume" flexVolume, opt "flocker" flocker,
   opt "gcePersistentDisk" gcePersistentDisk, opt "gitRepo" gitRepo, opt "glusterfs" glusterfs,
   opt "image" imageVolume, opt "iscsi" iscsi, opt "nfs" nfs,
   opt "persistentVolumeClaim" persistentVolumeClaim, opt "photonPersistentDisk" photonDisk,
   opt "portworxVolume" portworx, opt "projected" projected, opt "quobyte" quobyte, opt "rbd" rbd,
   opt "scaleIO" scaleIO, opt "secret" secretVolume, opt "storageos" storageos,
   opt "vsphereVolume" vsphereVolume]

end MeshSidecar.Schema
