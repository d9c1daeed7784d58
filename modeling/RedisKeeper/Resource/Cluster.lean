import RedisKeeper.Api.Resource
import RedisKeeper.Resource.Condition
import RedisKeeper.Resource.Metadata
import RedisKeeper.Resource.Role
import RedisKeeper.Resource.Spec

/-
A Redis cluster as its user describes it and as its status reports it.
-/
namespace RedisKeeper

open Json

/-- Settings of one group of nodes. -/
structure RoleSpec where
  /-- The number of nodes, if it is not the cluster's size. -/
  replicas : Option Int32 := none
  config : Option ExtraConfig := none
deriving DecidableEq, Inhabited

namespace RoleSpec

def toJson (s : RoleSpec) : Json :=
  object [("redisConfig", s.config.map (·.toJson)), ("replicas", s.replicas.map ofInt32)]

def format : Format RoleSpec :=
  .declared "RoleSpec" <| RoleSpec.mk
    <$> .optional "replicas" .int32
    <*> .optional "redisConfig" ExtraConfig.format

end RoleSpec

structure ClusterSpec where
  /-- The number of nodes of each group that does not set its own. -/
  size : Int32 := 3
  leader : RoleSpec := {}
  follower : RoleSpec := {}
  container : ContainerSettings := {}
  storage : Option Storage := none
  nodeSelector : StringMap := .empty
deriving DecidableEq, Inhabited

namespace ClusterSpec

def toJson (s : ClusterSpec) : Json :=
  object [
    ("kubernetesConfig", some s.container.toJson),
    ("nodeSelector", some (ofMap s.nodeSelector)),
    ("redisFollower", some s.follower.toJson),
    ("redisLeader", some s.leader.toJson),
    ("size", some (ofInt32 s.size)),
    ("storage", s.storage.map (·.toJson))]

def format : Format ClusterSpec :=
  .declared "ClusterSpec" <| ClusterSpec.mk
    <$> .defaulted "size" 3 .int32
    <*> .defaulted "redisLeader" {} RoleSpec.format
    <*> .defaulted "redisFollower" {} RoleSpec.format
    <*> .required "kubernetesConfig" ContainerSettings.format
    <*> .optional "storage" Storage.format
    <*> .defaulted "nodeSelector" .empty .textMap

def role (s : ClusterSpec) : Role → RoleSpec
  | .leader => s.leader
  | .follower => s.follower

/-- The number of nodes asked for in a group, which is never below zero. -/
def replicas (s : ClusterSpec) (role : Role) : Int32 :=
  let wanted := (s.role role).replicas.getD s.size
  if wanted < 0 then 0 else wanted

/-- The ConfigMap that a group's pods include. -/
def configMap (s : ClusterSpec) (role : Role) : Option String :=
  (s.role role).config.bind (·.configMap)

/-- The name of a group's settings in the spec. -/
def fieldName : Role → String
  | .leader => "redisLeader"
  | .follower => "redisFollower"

/-- A count that cannot be met. -/
inductive Invalid where
  | size (n : Int32)
  | replicas (role : Role) (n : Int32)
deriving DecidableEq

def Invalid.message : Invalid → String
  | .size n => s!"spec.size must not be negative, got {n.toInt}"
  | .replicas role n =>
    s!"spec.{fieldName role}.replicas must not be negative, got {n.toInt}"

/-- The first negative count: the size, then the groups' own numbers. -/
def firstInvalid (s : ClusterSpec) : Option Invalid :=
  if s.size < 0 then some (.size s.size)
  else
    Role.all.findSome? fun role =>
      match (s.role role).replicas with
      | some n => if n < 0 then some (.replicas role n) else none
      | none => none

theorem firstInvalid_eq_none_iff {s : ClusterSpec} :
    s.firstInvalid = none ↔
      ¬ s.size < 0 ∧ ∀ role n, (s.role role).replicas = some n → ¬ n < 0 := by
  have hrole : ∀ role, role ∈ Role.all := fun role => by cases role <;> decide
  rw [firstInvalid]
  split
  · rename_i hsize
    exact ⟨nofun, fun h => absurd hsize h.1⟩
  · rename_i hsize
    rw [List.findSome?_eq_none_iff]
    constructor
    · intro h
      refine ⟨hsize, fun role n hn hneg => ?_⟩
      have hnone := h role (hrole role)
      rw [hn] at hnone
      exact absurd hnone (by simp [hneg])
    · rintro ⟨-, h⟩ role -
      cases hn : (s.role role).replicas with
      | none => rfl
      | some n => exact if_neg (h role n hn)

theorem replicas_nonneg (s : ClusterSpec) (role : Role) : 0 ≤ (s.replicas role).toInt := by
  rw [replicas]
  split
  · decide
  · rename_i h
    exact Int32.le_iff_toInt_le.mp (Int32.not_lt.mp h)

/-- Where no count is negative, none is raised to zero. -/
theorem replicas_eq_of_valid {s : ClusterSpec} (h : s.firstInvalid = none) (role : Role) :
    s.replicas role = (s.role role).replicas.getD s.size := by
  obtain ⟨hsize, hroles⟩ := firstInvalid_eq_none_iff.mp h
  rw [replicas]
  cases hown : (s.role role).replicas with
  | none => exact if_neg hsize
  | some n => exact if_neg (hroles role n hown)

end ClusterSpec

/-- Where a cluster stands. -/
inductive Phase where
  | pending
  | creating
  | waitingForReadiness
  | bootstrapping
  | replicating
  | failingOver
  | converged
deriving DecidableEq, Inhabited

namespace Phase

def all : List Phase :=
  [pending, creating, waitingForReadiness, bootstrapping, replicating, failingOver, converged]

def name : Phase → String
  | pending => "Pending"
  | creating => "Creating"
  | waitingForReadiness => "WaitingForReadiness"
  | bootstrapping => "Bootstrapping"
  | replicating => "Replicating"
  | failingOver => "FailingOver"
  | converged => "Converged"

def ofName? (s : String) : Option Phase := all.find? fun phase => phase.name = s

theorem ofName?_name (phase : Phase) : ofName? phase.name = some phase := by
  cases phase <;> decide

/-- A phase is given by its name, alone or as the only key of an object whose
value is null. -/
def ofJson? : Json → Option Phase
  | .str s => ofName? s
  | .obj [(s, .null)] => ofName? s
  | _ => none

def format : Format Phase := ⟨.choice (all.map name), ofJson?⟩

end Phase

structure ClusterStatus where
  phase : Phase := .pending
  readyLeaders : Int32 := 0
  readyFollowers : Int32 := 0
  /-- Rows of the last table that was seen. -/
  clusterNodes : Int32 := 0
  /-- Failed rows of the last table that was seen. -/
  failedNodes : Int32 := 0
  observedGeneration : Option Int64 := none
  conditions : Conditions := []
deriving DecidableEq, Inhabited

namespace ClusterStatus

def toJson (s : ClusterStatus) : Json :=
  object [
    ("clusterNodes", some (ofInt32 s.clusterNodes)),
    ("conditions", some (.arr (s.conditions.map Condition.toJson))),
    ("failedNodes", some (ofInt32 s.failedNodes)),
    ("observedGeneration", s.observedGeneration.map ofInt64),
    ("phase", some (.str s.phase.name)),
    ("readyFollowers", some (ofInt32 s.readyFollowers)),
    ("readyLeaders", some (ofInt32 s.readyLeaders))]

def format : Format ClusterStatus :=
  .declared "ClusterStatus" <| ClusterStatus.mk
    <$> .defaulted "phase" .pending Phase.format
    <*> .defaulted "readyLeaders" 0 .int32
    <*> .defaulted "readyFollowers" 0 .int32
    <*> .defaulted "clusterNodes" 0 .int32
    <*> .defaulted "failedNodes" 0 .int32
    <*> .nullable "observedGeneration" .int64
    <*> .defaulted "conditions" [] (.list Condition.format)

end ClusterStatus

/-- The resource itself. -/
structure RedisCluster where
  metadata : Metadata := {}
  spec : ClusterSpec
  status : Option ClusterStatus := none
deriving DecidableEq, Inhabited

namespace RedisCluster

def kind : String := Api.ResourceType.redisCluster.kind

def toJson (c : RedisCluster) : Json :=
  object [
    ("apiVersion", some (.str Api.ResourceType.redisCluster.apiVersion)),
    ("kind", some (.str kind)),
    ("metadata", some c.metadata.toJson),
    ("spec", some c.spec.toJson),
    ("status", c.status.map (·.toJson))]

def format : Format RedisCluster :=
  .declared "RedisCluster" <| RedisCluster.mk
    <$> .required "metadata" Metadata.format
    <*> .required "spec" ClusterSpec.format
    <*> .nullable "status" ClusterStatus.format

def ofJson? (json : Json) : Option RedisCluster := format.decode json

/-- A cluster with a name and nothing else but its spec. -/
def named (name : String) (spec : ClusterSpec) : RedisCluster :=
  { metadata := { name := some name }, spec }

def name (c : RedisCluster) : String := c.metadata.displayName

end RedisCluster
end RedisKeeper
