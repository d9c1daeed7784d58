import RedisKeeper.Definition.Schema
import RedisKeeper.Resource.Cluster
import RedisKeeper.Resource.Single

/-
The definitions by which the Kubernetes API learns of the two kinds of Redis
resource.
-/
namespace RedisKeeper
namespace Definition

open Json Schema

/-! ## Schemas of both kinds -/

def quantities : Schema :=
  described "CPU and memory quantities." <|
    nullable <| record [("cpu", nullable text), ("memory", nullable text)]

def containerSettings : Schema :=
  described "Container settings applied to every store pod." <| record [
    ("image", described "Store container image, e.g. `redis:7.2`." text),
    ("imagePullPolicy",
      described "Image pull policy (Always, IfNotPresent, Never)." (nullable text)),
    ("resources",
      described "Resource requests and limits for the store container." <|
        nullable <| record [("limits", quantities), ("requests", quantities)])]

def nodeSelector : Schema := defaulted (object []) (map text)

def extraConfig : Schema :=
  described "Extra store configuration supplied by the user." <| nullable <| record [
    ("additionalRedisConfig",
      described "Name of a ConfigMap holding `redis-additional.conf`, included at startup."
        (nullable text))]

def storage : Schema :=
  described "Persistent storage for the store's data directory." <| nullable <| record [
    ("volumeClaimTemplate",
      described "Shape of the per-pod PersistentVolumeClaim." <| record [
        ("accessModes",
          described "Access modes. Empty means ReadWriteOnce." <|
            defaulted (.arr []) (list text)),
        ("size",
          described "Requested capacity (default: 1Gi)." <| defaulted (.str "1Gi") text),
        ("storageClassName", nullable text)])]

def conditions : Schema :=
  defaulted (.arr []) <| list <|
    described "Condition describes one aspect of a resource's state." <| record [
      ("lastTransitionTime", text),
      ("message", text),
      ("observedGeneration", nullable int64),
      ("reason", text),
      ("status", described "\"True\", \"False\" or \"Unknown\"." text),
      ("type", text)]

/-- A count that is zero when it is missing. -/
def count : Schema := defaulted (.int 0) int32

/-! ## Clusters -/

def roleSpec : Schema :=
  described "Per-role settings." <| defaulted (object []) <| record [
    ("redisConfig", extraConfig),
    ("replicas",
      described "Replica count for this role. Falls back to `spec.size` when unset."
        (nullable int32))]

def clusterSpec : Schema :=
  described
    ("RedisCluster is a custom resource for a leader/follower Redis cluster.\n\n" ++
      "Example: ```yaml apiVersion: " ++ Api.ResourceType.redisCluster.apiVersion ++
      " kind: RedisCluster metadata: name: cache spec: size: 3 " ++
      "kubernetesConfig: image: redis:7.2 redisFollower: replicas: 3 " ++
      "storage: volumeClaimTemplate: size: 5Gi ```") <|
    record [
      ("kubernetesConfig", containerSettings),
      ("nodeSelector", nodeSelector),
      ("redisFollower", roleSpec),
      ("redisLeader", roleSpec),
      ("size",
        described "Fallback replica count for any role group that does not set its own." <|
          defaulted (.int 3) int32),
      ("storage", storage)]

/-- The names of the phases, with those that need no explanation first. -/
def phaseNames : List String :=
  [Phase.pending, .waitingForReadiness, .bootstrapping, .replicating, .failingOver, .converged,
    .creating].map Phase.name

def clusterStatus : Schema :=
  described "Status of a RedisCluster." <| nullable <| record [
    ("clusterNodes", described "Rows in the last observed CLUSTER NODES table." count),
    ("conditions", conditions),
    ("failedNodes",
      described "Rows flagged `fail` or `disconnected` in the last observed table." count),
    ("observedGeneration", nullable int64),
    ("phase",
      described "Phase reported after each topology pass." <|
        defaulted (.str Phase.pending.name) (choice phaseNames)),
    ("readyFollowers", count),
    ("readyLeaders", count)]

/-! ## Single instances -/

def singleSpec : Schema :=
  described
    ("RedisSingle is a custom resource for a standalone Redis instance.\n\n" ++
      "Example: ```yaml apiVersion: " ++ Api.ResourceType.redisSingle.apiVersion ++
      " kind: RedisSingle metadata: name: sessions spec: kubernetesConfig: image: redis:7.2 ```") <|
    record [
      ("kubernetesConfig", containerSettings),
      ("nodeSelector", nodeSelector),
      ("redisConfig", extraConfig),
      ("storage", storage)]

def singleStatus : Schema :=
  described "Status of a RedisSingle." <| nullable <| record [
    ("conditions", conditions),
    ("nodes",
      described "Names of the pods currently backing the instance, in list order." <|
        defaulted (.arr []) (list text)),
    ("observedGeneration", nullable int64),
    ("readyReplicas", count)]

/-! ## Definitions -/

/-- A column of the table in which objects are listed. -/
structure Column where
  name : String
  type : String
  path : String

def Column.toJson (c : Column) : Json :=
  object [
    ("jsonPath", some (.str c.path)),
    ("name", some (.str c.name)),
    ("type", some (.str c.type))]

/-- A kind of resource as the API has to know it. -/
structure Resource extends Api.ResourceType where
  shortName : String
  columns : List Column
  spec : Schema
  status : Schema

namespace Resource

def singular (r : Resource) : String := r.kind.toLower

def schema (r : Resource) : Json :=
  object [
    ("description",
      some (.str s!"Auto-generated derived type for {r.kind}Spec via `CustomResource`")),
    ("properties", some (object [
      ("spec", some r.spec.toJson), ("status", some r.status.toJson)])),
    ("required", some (strings ["spec"])),
    ("title", some (.str r.kind)),
    ("type", some (.str "object"))]

def toJson (r : Resource) : Json :=
  object [
    ("apiVersion", some (.str "apiextensions.k8s.io/v1")),
    ("kind", some (.str "CustomResourceDefinition")),
    ("metadata", some (object [("name", some (.str (r.plural ++ "." ++ r.group)))])),
    ("spec", some (object [
      ("group", some (.str r.group)),
      ("names", some (object [
        ("categories", some (.arr [])),
        ("kind", some (.str r.kind)),
        ("plural", some (.str r.plural)),
        ("shortNames", some (strings [r.shortName])),
        ("singular", some (.str r.singular))])),
      ("scope", some (.str "Namespaced")),
      ("versions", some (.arr [object [
        ("additionalPrinterColumns", some (.arr (r.columns.map Column.toJson))),
        ("name", some (.str r.version)),
        ("schema", some (object [("openAPIV3Schema", some r.schema)])),
        ("served", some (.bool true)),
        ("storage", some (.bool true)),
        ("subresources", some (object [("status", some (object []))]))]]))]))]

end Resource

def age : Column := ⟨"Age", "date", ".metadata.creationTimestamp"⟩

def cluster : Resource where
  toResourceType := .redisCluster
  shortName := "rcl"
  columns := [
    ⟨"Phase", "string", ".status.phase"⟩,
    ⟨"Leaders", "integer", ".status.readyLeaders"⟩,
    ⟨"Followers", "integer", ".status.readyFollowers"⟩,
    ⟨"Nodes", "integer", ".status.clusterNodes"⟩,
    age]
  spec := clusterSpec
  status := clusterStatus

def single : Resource where
  toResourceType := .redisSingle
  shortName := "rsg"
  columns := [⟨"Ready", "integer", ".status.readyReplicas"⟩, age]
  spec := singleSpec
  status := singleStatus

/-- All definitions, in the order in which they are printed. -/
def all : List Resource := [cluster, single]

end Definition
end RedisKeeper
