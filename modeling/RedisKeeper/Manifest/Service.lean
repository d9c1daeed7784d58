import RedisKeeper.Manifest.StatefulSet

/-
The two Services in front of a StatefulSet's pods: one that only gives the pods
names, and one for clients.
-/
namespace RedisKeeper
namespace Manifest

open Json

inductive ServicePurpose where
  /-- It has no address and also names pods that are not ready, so that a
  cluster can form. -/
  | headless
  | client
deriving DecidableEq

namespace ServicePurpose

def all : List ServicePurpose := [headless, client]

/-- The name of the Service for a StatefulSet. -/
def serviceName (app : String) : ServicePurpose → String
  | headless => headlessName app
  | client => app

end ServicePurpose

structure Service where
  metadata : Metadata
  kind : ServicePurpose
  selector : StringMap
deriving DecidableEq

namespace Service

/-- A Service for the pods of a StatefulSet. -/
def build (owner : Owner) (app setup role : String) (kind : ServicePurpose) : Service where
  metadata :=
    owner.metadataOf (kind.serviceName app)
      (labels app setup role owner.metadata.labelMap)
      (annotations app owner.metadata.annotationMap)
  kind := kind
  selector := Manifest.selector app setup role

def redisPortJson : Json :=
  object [
    ("name", some (.str "redis-client")),
    ("port", some (.int redisPort.toNat)),
    ("protocol", some (.str "TCP")),
    ("targetPort", some (.int redisPort.toNat))]

def toJson (s : Service) : Json :=
  let headless := s.kind = .headless
  object [
    ("apiVersion", some (.str "v1")),
    ("kind", some (.str "Service")),
    ("metadata", some s.metadata.toJson),
    ("spec", some (object [
      ("clusterIP", if headless then some (.str "None") else none),
      ("ports", some (.arr [redisPortJson])),
      ("publishNotReadyAddresses", if headless then some (.bool true) else none),
      ("selector", some (ofMap s.selector)),
      ("type", if headless then none else some (.str "ClusterIP"))]))]

end Service
end Manifest

/-- Both Services of a group of a cluster. -/
def RedisCluster.services (c : RedisCluster) (role : Role) : List Manifest.Service :=
  Manifest.ServicePurpose.all.map <|
    Manifest.Service.build c.owner (roleObjectName c.name role) Manifest.clusterSetup role.name

/-- Both Services of a single instance. -/
def RedisSingle.services (s : RedisSingle) : List Manifest.Service :=
  Manifest.ServicePurpose.all.map <|
    Manifest.Service.build s.owner s.name Manifest.singleSetup Manifest.singleSetup

end RedisKeeper
