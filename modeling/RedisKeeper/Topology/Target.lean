import RedisKeeper.Resource.Cluster

/-
What a cluster is to look like, and the pods that make it up.
-/
namespace RedisKeeper

/-- A pod by its name. -/
structure PodName where
  ns : String
  name : String
deriving DecidableEq, Inhabited

namespace PodName

def text (p : PodName) : String := p.ns ++ "/" ++ p.name

end PodName

/-- The name of the StatefulSet and the Services of a group. -/
def roleObjectName (cluster : String) (role : Role) : String := cluster ++ "-" ++ role.name

/-- The shape wanted of a cluster, fixed for one pass. -/
structure Target where
  name : String
  ns : String
  leaders : Nat
  followers : Nat
deriving DecidableEq, Inhabited

namespace Target

/-- The target that a resource describes.  One without a namespace belongs to
`default`. -/
def ofCluster (c : RedisCluster) : Target where
  name := c.name
  ns := c.metadata.ns.getD "default"
  leaders := (c.spec.replicas .leader).toInt.toNat
  followers := (c.spec.replicas .follower).toInt.toNat

def replicas (t : Target) : Role → Nat
  | .leader => t.leaders
  | .follower => t.followers

def total (t : Target) : Nat := t.leaders + t.followers

/-- The pod with an index in a group. -/
def pod (t : Target) (role : Role) (index : Nat) : PodName :=
  ⟨t.ns, roleObjectName t.name role ++ "-" ++ toString index⟩

/-- The pod in which cluster commands are run. -/
def firstLeader (t : Target) : PodName := t.pod .leader 0

end Target

/-- The numbers of ready pods of both groups. -/
structure ReadyCounts where
  leaders : Int32
  followers : Int32
deriving DecidableEq, Inhabited

/-- Whether both groups have exactly the pods they are to have. -/
def ReadyCounts.meet (r : ReadyCounts) (t : Target) : Bool :=
  r.leaders.toInt = t.leaders && r.followers.toInt = t.followers

theorem ReadyCounts.meet_eq_true_iff {r : ReadyCounts} {t : Target} :
    r.meet t = true ↔ r.leaders.toInt = t.leaders ∧ r.followers.toInt = t.followers := by
  rw [meet, Bool.and_eq_true, decide_eq_true_eq, decide_eq_true_eq]

end RedisKeeper
