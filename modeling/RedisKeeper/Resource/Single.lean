import RedisKeeper.Api.Resource
import RedisKeeper.Resource.Condition
import RedisKeeper.Resource.Metadata
import RedisKeeper.Resource.Spec

/-
A Redis instance of its own, outside any cluster.
-/
namespace RedisKeeper

open Json

structure SingleSpec where
  container : ContainerSettings := {}
  storage : Option Storage := none
  config : Option ExtraConfig := none
  nodeSelector : StringMap := .empty
deriving DecidableEq, Inhabited

namespace SingleSpec

def toJson (s : SingleSpec) : Json :=
  object [
    ("kubernetesConfig", some s.container.toJson),
    ("nodeSelector", some (ofMap s.nodeSelector)),
    ("redisConfig", s.config.map (·.toJson)),
    ("storage", s.storage.map (·.toJson))]

def format : Format SingleSpec :=
  .declared "SingleSpec" <| SingleSpec.mk
    <$> .required "kubernetesConfig" ContainerSettings.format
    <*> .optional "storage" Storage.format
    <*> .optional "redisConfig" ExtraConfig.format
    <*> .defaulted "nodeSelector" .empty .textMap

/-- The ConfigMap that the pod includes. -/
def configMap (s : SingleSpec) : Option String := s.config.bind (·.configMap)

end SingleSpec

structure SingleStatus where
  readyReplicas : Int32 := 0
  /-- Names of the pods behind the instance, in the order in which they are
  listed. -/
  nodes : List String := []
  observedGeneration : Option Int64 := none
  conditions : Conditions := []
deriving DecidableEq, Inhabited

namespace SingleStatus

def toJson (s : SingleStatus) : Json :=
  object [
    ("conditions", some (.arr (s.conditions.map Condition.toJson))),
    ("nodes", some (strings s.nodes)),
    ("observedGeneration", s.observedGeneration.map ofInt64),
    ("readyReplicas", some (ofInt32 s.readyReplicas))]

def format : Format SingleStatus :=
  .declared "SingleStatus" <| SingleStatus.mk
    <$> .defaulted "readyReplicas" 0 .int32
    <*> .defaulted "nodes" [] (.list .text)
    <*> .nullable "observedGeneration" .int64
    <*> .defaulted "conditions" [] (.list Condition.format)

end SingleStatus

structure RedisSingle where
  metadata : Metadata := {}
  spec : SingleSpec := {}
  status : Option SingleStatus := none
deriving DecidableEq, Inhabited

namespace RedisSingle

def kind : String := Api.ResourceType.redisSingle.kind

def toJson (s : RedisSingle) : Json :=
  object [
    ("apiVersion", some (.str Api.ResourceType.redisSingle.apiVersion)),
    ("kind", some (.str kind)),
    ("metadata", some s.metadata.toJson),
    ("spec", some s.spec.toJson),
    ("status", s.status.map (·.toJson))]

def format : Format RedisSingle :=
  .declared "RedisSingle" <| RedisSingle.mk
    <$> .required "metadata" Metadata.format
    <*> .required "spec" SingleSpec.format
    <*> .nullable "status" SingleStatus.format

def ofJson? (json : Json) : Option RedisSingle := format.decode json

def named (name : String) (spec : SingleSpec) : RedisSingle :=
  { metadata := { name := some name }, spec }

def name (s : RedisSingle) : String := s.metadata.displayName

end RedisSingle
end RedisKeeper
