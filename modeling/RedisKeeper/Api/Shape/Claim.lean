import RedisKeeper.Api.Shape.Basic

/-
The shape of a claim for storage.
-/
namespace RedisKeeper
namespace Api
namespace Shape

open Json

def dataSource : List (String × Json.Shape) := [
  ("apiGroup", .anyText), ("kind", .anyText), ("name", .anyText)]

def claimSpec : Json.Shape := .object "PersistentVolumeClaimSpec" [
  ("accessModes", texts),
  ("dataSource", .object "TypedLocalObjectReference" dataSource),
  ("dataSourceRef", .object "TypedObjectReference" (("namespace", .anyText) :: dataSource)),
  ("resources", .object "VolumeResourceRequirements" amounts),
  ("selector", selector),
  ("storageClassName", .anyText),
  ("volumeAttributesClassName", .anyText),
  ("volumeMode", .anyText),
  ("volumeName", .anyText)]

def claimStatus : Json.Shape := .object "PersistentVolumeClaimStatus" [
  ("accessModes", texts),
  ("allocatedResourceStatuses", textMap),
  ("allocatedResources", textMap),
  ("capacity", textMap),
  ("conditions", .list (condition "PersistentVolumeClaimCondition" [("lastProbeTime", moment)])),
  ("currentVolumeAttributesClassName", .anyText),
  ("modifyVolumeStatus", .object "ModifyVolumeStatus" [
    ("status", .anyText), ("targetVolumeAttributesClassName", .anyText)]),
  ("phase", .anyText)]

def claim : Json.Shape := root .claim [("spec", claimSpec), ("status", claimStatus)]

/-- A claim to be made for something else. -/
def claimTemplate : Json.Shape := .object "PersistentVolumeClaimTemplate" [
  ("metadata", Metadata.format.shape), ("spec", claimSpec)]

end Shape
end Api
end RedisKeeper
