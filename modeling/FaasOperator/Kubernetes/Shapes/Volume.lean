/-
# `FaasOperator.Kubernetes.Shapes.Volume` — shapes of the volumes of a pod

By where their contents come from, with the fields of version 1.33 of the API.  What makes a volume
large or small is among them, and is kept as it is where a Deployment says it.
-/
import FaasOperator.Kubernetes.Shapes.Container

namespace FaasOperator.Shapes

open Json Json.Shape

/-! ## Contents made by the cluster -/

def keyToPathFields : List (Label × Shape) :=
  blank .text ["key", "path"] ++
  optional .int32 ["mode"]

def keyToPath : Shape := .record keyToPathFields

/-- The fields of the keys of a named object as files. -/
def keysProjectionFields : List (Label × Shape) :=
  blank .text ["name"] ++
  optional (.list keyToPath) ["items"] ++
  optional .flag ["optional"]

/-- The keys of a named object as files. -/
def keysProjection : Shape := .record keysProjectionFields

/-- A configuration as files. -/
def configMapVolume : Shape :=
  .record (optional .int32 ["defaultMode"] ++ keysProjectionFields)

/-- A Secret as files. -/
def secretVolume : Shape := .record (
  optional .int32 ["defaultMode"] ++
  optional (.list keyToPath) ["items"] ++
  optional .flag ["optional"] ++
  optional .text ["secretName"])

/-- Something known of the pod as a file. -/
def podFile : Shape := .record (
  optional fieldSelector ["fieldRef"] ++
  optional .int32 ["mode"] ++
  blank .text ["path"] ++
  optional resourceSelector ["resourceFieldRef"])

/-- Things known of the pod as files. -/
def podFiles : Shape := .record (optional (.list podFile) ["items"])

/-- A volume of things known of the pod. -/
def podVolume : Shape := .record (
  optional .int32 ["defaultMode"] ++
  optional (.list podFile) ["items"])

/-- Trusted certificates as a file. -/
def certificatesProjection : Shape := .record (
  optional labelSelector ["labelSelector"] ++
  optional .text ["name", "signerName"] ++
  optional .flag ["optional"] ++
  blank .text ["path"])

/-- A token as a file. -/
def tokenProjection : Shape := .record (
  optional .text ["audience"] ++
  optional .int64 ["expirationSeconds"] ++
  blank .text ["path"])

def volumeProjectionFields : List (Label × Shape) :=
  optional certificatesProjection ["clusterTrustBundle"] ++
  optional keysProjection ["configMap", "secret"] ++
  optional podFiles ["downwardAPI"] ++
  optional tokenProjection ["serviceAccountToken"]

def projectedVolumeFields : List (Label × Shape) :=
  optional .int32 ["defaultMode"] ++
  optional (.list (.record volumeProjectionFields)) ["sources"]

def emptyDirFields : List (Label × Shape) := optional .text ["medium", "sizeLimit"]

/-! ## Claims -/

/-- An object of the same namespace to start from. -/
def dataSource : Shape := .record (
  optional .text ["apiGroup"] ++
  blank .text ["kind", "name"])

/-- An object of any namespace to start from. -/
def foreignDataSource : Shape := .record (
  optional .text ["apiGroup", "namespace"] ++
  blank .text ["kind", "name"])

def volumeClaim : Shape := .record (
  optional .texts ["accessModes"] ++
  optional dataSource ["dataSource"] ++
  optional foreignDataSource ["dataSourceRef"] ++
  optional (.record (optional quantities ["limits", "requests"])) ["resources"] ++
  optional labelSelector ["selector"] ++
  optional .text ["storageClassName", "volumeAttributesClassName", "volumeMode", "volumeName"])

/-- A claim that is made with the pod. -/
def claimTemplate : Shape := .record (
  optional objectMeta ["metadata"] ++
  blank volumeClaim ["spec"])

/-- A volume that lives as long as the pod. -/
def ephemeralVolume : Shape := .record (optional claimTemplate ["volumeClaimTemplate"])

/-- A claim that is there already. -/
def claimVolume : Shape := .record (
  blank .text ["claimName"] ++
  optional .flag ["readOnly"])

/-! ## Storage systems -/

/-- Storage that is driven by a plug-in of the storage interface. -/
def driverVolume : Shape := .record (
  blank .text ["driver"] ++
  optional .text ["fsType"] ++
  optional localReference ["nodePublishSecretRef"] ++
  optional .flag ["readOnly"] ++
  optional .textMap ["volumeAttributes"])

/-- Storage that is driven by a program on the node. -/
def programVolume : Shape := .record (
  blank .text ["driver"] ++
  optional .text ["fsType"] ++
  optional .textMap ["options"] ++
  optional .flag ["readOnly"] ++
  optional localReference ["secretRef"])

/-- The storage systems, each with the fields of its volumes. -/
def storageFields : List (Label × Shape) :=
  optional (.record (
    optional .text ["fsType"] ++ optional .int32 ["partition"] ++ optional .flag ["readOnly"] ++
    blank .text ["volumeID"])) ["awsElasticBlockStore"] ++
  optional (.record (
    optional .text ["cachingMode", "fsType", "kind"] ++ blank .text ["diskName", "diskURI"] ++
    optional .flag ["readOnly"])) ["azureDisk"] ++
  optional (.record (
    optional .flag ["readOnly"] ++ blank .text ["secretName", "shareName"])) ["azureFile"] ++
  optional (.record (
    blank .texts ["monitors"] ++ optional .text ["path", "secretFile", "user"] ++
    optional .flag ["readOnly"] ++ optional localReference ["secretRef"])) ["cephfs"] ++
  optional (.record (
    optional .text ["fsType"] ++ optional .flag ["readOnly"] ++
    optional localReference ["secretRef"] ++ blank .text ["volumeID"])) ["cinder"] ++
  optional driverVolume ["csi"] ++
  optional (.record (
    optional .text ["fsType"] ++ optional .int32 ["lun"] ++ optional .flag ["readOnly"] ++
    optional .texts ["targetWWNs", "wwids"])) ["fc"] ++
  optional programVolume ["flexVolume"] ++
  optional (.record (optional .text ["datasetName", "datasetUUID"])) ["flocker"] ++
  optional (.record (
    optional .text ["fsType"] ++ optional .int32 ["partition"] ++ blank .text ["pdName"] ++
    optional .flag ["readOnly"])) ["gcePersistentDisk"] ++
  optional (.record (
    optional .text ["directory", "revision"] ++ blank .text ["repository"])) ["gitRepo"] ++
  optional (.record (
    blank .text ["endpoints", "path"] ++ optional .flag ["readOnly"])) ["glusterfs"] ++
  optional (.record (blank .text ["path"] ++ optional .text ["type"])) ["hostPath"] ++
  optional (.record (optional .text ["pullPolicy", "reference"])) ["image"] ++
  optional (.record (
    optional .flag ["chapAuthDiscovery", "chapAuthSession", "readOnly"] ++
    optional .text ["fsType", "initiatorName", "iscsiInterface"] ++
    blank .text ["iqn", "targetPortal"] ++ blank .int32 ["lun"] ++ optional .texts ["portals"] ++
    optional localReference ["secretRef"])) ["iscsi"] ++
  optional (.record (
    blank .text ["path", "server"] ++ optional .flag ["readOnly"])) ["nfs"] ++
  optional (.record (
    optional .text ["fsType"] ++ blank .text ["pdID"])) ["photonPersistentDisk"] ++
  optional (.record (
    optional .text ["fsType"] ++ optional .flag ["readOnly"] ++
    blank .text ["volumeID"])) ["portworxVolume"] ++
  optional (.record (
    optional .text ["group", "tenant", "user"] ++ optional .flag ["readOnly"] ++
    blank .text ["registry", "volume"])) ["quobyte"] ++
  optional (.record (
    optional .text ["fsType", "keyring", "pool", "user"] ++ blank .text ["image"] ++
    blank .texts ["monitors"] ++ optional .flag ["readOnly"] ++
    optional localReference ["secretRef"])) ["rbd"] ++
  optional (.record (
    optional .text ["fsType", "protectionDomain", "storageMode", "storagePool", "volumeName"] ++
    blank .text ["gateway", "system"] ++ optional .flag ["readOnly", "sslEnabled"] ++
    blank localReference ["secretRef"])) ["scaleIO"] ++
  optional (.record (
    optional .text ["fsType", "volumeName", "volumeNamespace"] ++ optional .flag ["readOnly"] ++
    optional localReference ["secretRef"])) ["storageos"] ++
  optional (.record (
    optional .text ["fsType", "storagePolicyID", "storagePolicyName"] ++
    blank .text ["volumePath"])) ["vsphereVolume"]

def volumeFields : List (Label × Shape) :=
  blank .text ["name"] ++
  optional configMapVolume ["configMap"] ++
  optional podVolume ["downwardAPI"] ++
  optional (.record emptyDirFields) ["emptyDir"] ++
  optional ephemeralVolume ["ephemeral"] ++
  optional claimVolume ["persistentVolumeClaim"] ++
  optional (.record projectedVolumeFields) ["projected"] ++
  optional secretVolume ["secret"] ++
  storageFields

end FaasOperator.Shapes
