import RedisKeeper.Api.Resource
import RedisKeeper.StringMap

/-
Labels and annotations of the objects that belong to a Redis resource.

The owner's labels reach its objects, except under the keys that select pods;
its annotations do, except those that client tools keep for themselves.
-/
namespace RedisKeeper
namespace Manifest

/-- The value of the set-up label of a cluster's pods. -/
def clusterSetup : String := "cluster"

/-- The value of the set-up and role labels of a pod outside any cluster. -/
def singleSetup : String := "standalone"

/-- The name of the Service that gives the pods of a StatefulSet their names. -/
def headlessName (base : String) : String := base ++ "-headless"

/-- The labels that select the pods of one StatefulSet. -/
def selector (app setup role : String) : StringMap :=
  .ofList [("app", app), ("redis_setup_type", setup), ("role", role)]

def labels (app setup role : String) (owner : StringMap) : StringMap :=
  owner.union (selector app setup role)

/-- Annotations in which client tools note what they applied. -/
def clientNotes : List String :=
  ["kubectl.kubernetes.io/last-applied-configuration", "banzaicloud.com/last-applied"]

def annotations (app : String) (owner : StringMap) : StringMap :=
  (StringMap.ofList [(Api.redisGroup, "true"), (Api.redisGroup ++ "/instance", app)]).insertAll
    (owner.entries.filter fun entry => entry.1 ∉ clientNotes)

end Manifest
end RedisKeeper
