import RedisKeeper.Reconcile.Cluster
import RedisKeeper.Reconcile.Single

/-
A Redis resource of either kind.
-/
namespace RedisKeeper
namespace Controller

inductive Subject where
  | cluster (c : RedisCluster)
  | single (s : RedisSingle)

namespace Subject

/-- The form of the resources of a kind, which is that of single instances for
any kind but the clusters'. -/
def format (kind : String) : Json.Format Subject :=
  if kind = RedisCluster.kind then RedisCluster.format.map cluster
  else RedisSingle.format.map single

/-- The resource of a kind that an object is. -/
def ofJson? (kind : String) (json : Json) : Option Subject := (format kind).decode json

def metadata : Subject → Metadata
  | cluster c => c.metadata
  | single s => s.metadata

def owner : Subject → Owner
  | cluster c => c.owner
  | single s => s.owner

/-- One look at the resource. -/
def tick (setting : Reconcile.Setting) : Subject → Api.Work Reconcile.Tick
  | cluster c => Reconcile.cluster setting c
  | single s => Reconcile.single setting s

end Subject
end Controller
end RedisKeeper
