import RedisKeeper.Api.Shape.Claim

/-
The shape of a pod's volume, which names the source that the volume comes from.
-/
namespace RedisKeeper
namespace Api
namespace Shape

open Json

/-- A source with a file system on it. -/
def fileSystem (title : String) (fields : List (String × Json.Shape)) : Json.Shape :=
  .object title <| ("fsType", .anyText) :: ("readOnly", .truth) :: fields

/-- Keys of a stored map, as files. -/
def keyFiles (title : String) (fields : List (String × Json.Shape)) : Json.Shape :=
  .object title <| ("items", fileItems) :: ("optional", .truth) :: fields

/-- Facts about the pod, as files. -/
def podFiles : Json.Shape := .list <| .object "DownwardAPIVolumeFile" [
  ("fieldRef", fieldReference), ("mode", .int32), ("path", .anyText),
  ("resourceFieldRef", resourceReference)]

/-- One source of a volume that has many. -/
def projection : Json.Shape := .object "VolumeProjection" [
  ("clusterTrustBundle", .object "ClusterTrustBundleProjection" [
    ("labelSelector", selector), ("name", .anyText), ("optional", .truth), ("path", .anyText),
    ("signerName", .anyText)]),
  ("configMap", keyFiles "ConfigMapProjection" [("name", .anyText)]),
  ("downwardAPI", .object "DownwardAPIProjection" [("items", podFiles)]),
  ("secret", keyFiles "SecretProjection" [("name", .anyText)]),
  ("serviceAccountToken", .object "ServiceAccountTokenProjection" [
    ("audience", .anyText), ("expirationSeconds", .int64), ("path", .anyText)])]

/-- Sources that hold what the cluster itself knows. -/
def clusterSources : List (String × Json.Shape) := [
  ("configMap", keyFiles "ConfigMapVolumeSource" [
    ("defaultMode", .int32), ("name", .anyText)]),
  ("downwardAPI", .object "DownwardAPIVolumeSource" [
    ("defaultMode", .int32), ("items", podFiles)]),
  ("projected", .object "ProjectedVolumeSource" [
    ("defaultMode", .int32), ("sources", .list projection)]),
  ("secret", keyFiles "SecretVolumeSource" [
    ("defaultMode", .int32), ("secretName", .anyText)])]

/-- Sources on the machine that runs the pod, and claims. -/
def localSources : List (String × Json.Shape) := [
  ("emptyDir", .object "EmptyDirVolumeSource" [
    ("medium", .anyText), ("sizeLimit", .anyText)]),
  ("ephemeral", .object "EphemeralVolumeSource" [("volumeClaimTemplate", claimTemplate)]),
  ("gitRepo", .object "GitRepoVolumeSource" [
    ("directory", .anyText), ("repository", .anyText), ("revision", .anyText)]),
  ("hostPath", .object "HostPathVolumeSource" [("path", .anyText), ("type", .anyText)]),
  ("image", .object "ImageVolumeSource" [("pullPolicy", .anyText), ("reference", .anyText)]),
  ("persistentVolumeClaim", .object "PersistentVolumeClaimVolumeSource" [
    ("claimName", .anyText), ("readOnly", .truth)])]

/-- Sources that storage systems provide. -/
def storageSources : List (String × Json.Shape) := [
  ("awsElasticBlockStore", fileSystem "AWSElasticBlockStoreVolumeSource" [
    ("partition", .int32), ("volumeID", .anyText)]),
  ("azureDisk", fileSystem "AzureDiskVolumeSource" [
    ("cachingMode", .anyText), ("diskName", .anyText), ("diskURI", .anyText),
    ("kind", .anyText)]),
  ("azureFile", .object "AzureFileVolumeSource" [
    ("readOnly", .truth), ("secretName", .anyText), ("shareName", .anyText)]),
  ("cephfs", .object "CephFSVolumeSource" [
    ("monitors", texts), ("path", .anyText), ("readOnly", .truth), ("secretFile", .anyText),
    ("secretRef", localReference), ("user", .anyText)]),
  ("cinder", fileSystem "CinderVolumeSource" [
    ("secretRef", localReference), ("volumeID", .anyText)]),
  ("csi", fileSystem "CSIVolumeSource" [
    ("driver", .anyText), ("nodePublishSecretRef", localReference),
    ("volumeAttributes", textMap)]),
  ("fc", fileSystem "FCVolumeSource" [
    ("lun", .int32), ("targetWWNs", texts), ("wwids", texts)]),
  ("flexVolume", fileSystem "FlexVolumeSource" [
    ("driver", .anyText), ("options", textMap), ("secretRef", localReference)]),
  ("flocker", .object "FlockerVolumeSource" [
    ("datasetName", .anyText), ("datasetUUID", .anyText)]),
  ("gcePersistentDisk", fileSystem "GCEPersistentDiskVolumeSource" [
    ("partition", .int32), ("pdName", .anyText)]),
  ("glusterfs", .object "GlusterfsVolumeSource" [
    ("endpoints", .anyText), ("path", .anyText), ("readOnly", .truth)]),
  ("iscsi", fileSystem "ISCSIVolumeSource" [
    ("chapAuthDiscovery", .truth), ("chapAuthSession", .truth), ("initiatorName", .anyText),
    ("iqn", .anyText), ("iscsiInterface", .anyText), ("lun", .int32), ("portals", texts),
    ("secretRef", localReference), ("targetPortal", .anyText)]),
  ("nfs", .object "NFSVolumeSource" [
    ("path", .anyText), ("readOnly", .truth), ("server", .anyText)]),
  ("photonPersistentDisk", .object "PhotonPersistentDiskVolumeSource" [
    ("fsType", .anyText), ("pdID", .anyText)]),
  ("portworxVolume", fileSystem "PortworxVolumeSource" [("volumeID", .anyText)]),
  ("quobyte", .object "QuobyteVolumeSource" [
    ("group", .anyText), ("readOnly", .truth), ("registry", .anyText), ("tenant", .anyText),
    ("user", .anyText), ("volume", .anyText)]),
  ("rbd", fileSystem "RBDVolumeSource" [
    ("image", .anyText), ("keyring", .anyText), ("monitors", texts), ("pool", .anyText),
    ("secretRef", localReference), ("user", .anyText)]),
  ("scaleIO", fileSystem "ScaleIOVolumeSource" [
    ("gateway", .anyText), ("protectionDomain", .anyText), ("secretRef", localReference),
    ("sslEnabled", .truth), ("storageMode", .anyText), ("storagePool", .anyText),
    ("system", .anyText), ("volumeName", .anyText)]),
  ("storageos", fileSystem "StorageOSVolumeSource" [
    ("secretRef", localReference), ("volumeName", .anyText), ("volumeNamespace", .anyText)]),
  ("vsphereVolume", .object "VsphereVirtualDiskVolumeSource" [
    ("fsType", .anyText), ("storagePolicyID", .anyText), ("storagePolicyName", .anyText),
    ("volumePath", .anyText)])]

def volume : Json.Shape :=
  .object "Volume" <| ("name", .anyText) :: clusterSources ++ localSources ++ storageSources

end Shape
end Api
end RedisKeeper
