/-
The kinds of object that the operator deals with, and where the API keeps them.
-/
namespace RedisKeeper
namespace Api

/-- The API group of the Redis resources. -/
def redisGroup : String := "redis.kubeops.dev"

/-- The version of the Redis resources. -/
def redisVersion : String := "v1alpha1"

structure ResourceType where
  kind : String
  /-- The API group, empty for the oldest kinds. -/
  group : String
  version : String
deriving DecidableEq, Inhabited

namespace ResourceType

def redisCluster : ResourceType := ⟨"RedisCluster", redisGroup, redisVersion⟩
def redisSingle : ResourceType := ⟨"RedisSingle", redisGroup, redisVersion⟩
def statefulSet : ResourceType := ⟨"StatefulSet", "apps", "v1"⟩
def service : ResourceType := ⟨"Service", "", "v1"⟩
def pod : ResourceType := ⟨"Pod", "", "v1"⟩
def claim : ResourceType := ⟨"PersistentVolumeClaim", "", "v1"⟩
def event : ResourceType := ⟨"Event", "events.k8s.io", "v1"⟩

def all : List ResourceType :=
  [redisCluster, redisSingle, statefulSet, service, pod, claim, event]

def ofKind? (kind : String) : Option ResourceType := all.find? fun t => t.kind = kind

/-- The name of the collection that holds the objects of a kind. -/
def collection (kind : String) : String := kind.toLower ++ "s"

def plural (t : ResourceType) : String := collection t.kind

def apiVersion (t : ResourceType) : String :=
  if t.group.isEmpty then t.version else t.group ++ "/" ++ t.version

/-- The path of all objects of a kind, in one namespace or in all of them. -/
def path (t : ResourceType) (ns : Option String) : String :=
  let root := if t.group.isEmpty then "/api/" else "/apis/"
  let scope := match ns with
    | some ns => "/namespaces/" ++ ns
    | none => ""
  root ++ t.apiVersion ++ scope ++ "/" ++ t.plural

end ResourceType
end Api
end RedisKeeper
