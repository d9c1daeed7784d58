import RedisKeeper.Manifest.Label
import RedisKeeper.Resource.Cluster
import RedisKeeper.Resource.Single

/-
A Redis resource as the owner of other objects.
-/
namespace RedisKeeper

structure Owner where
  kind : String
  metadata : Metadata
deriving DecidableEq, Inhabited

def RedisCluster.owner (c : RedisCluster) : Owner := ⟨kind, c.metadata⟩

def RedisSingle.owner (s : RedisSingle) : Owner := ⟨kind, s.metadata⟩

namespace Owner

def apiVersion : String := Api.redisGroup ++ "/" ++ Api.redisVersion

def name (o : Owner) : String := o.metadata.displayName

/-- The link that makes an object go away with its owner. -/
def reference (o : Owner) : OwnerReference where
  apiVersion := apiVersion
  kind := o.kind
  name := o.name
  uid := o.metadata.uid.getD ""
  controller := some true
  blockOwnerDeletion := some true

/-- The metadata of an object that belongs to the owner. -/
def metadataOf (o : Owner) (name : String) (labels annotations : StringMap) : Metadata where
  name := some name
  ns := o.metadata.ns
  labels := some labels
  annotations := some annotations
  ownerReferences := some [o.reference]

end Owner
end RedisKeeper
