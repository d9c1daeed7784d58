/-
The two groups of nodes of a cluster.
-/
namespace RedisKeeper

inductive Role where
  | leader
  | follower
deriving DecidableEq, Inhabited, Repr

namespace Role

/-- Both groups, in the order in which they are dealt with. -/
def all : List Role := [leader, follower]

/-- The name used in object names and labels. -/
def name : Role → String
  | leader => "leader"
  | follower => "follower"

/-- The word for the group in the flags of a cluster's table. -/
def flag : Role → String
  | leader => "master"
  | follower => "slave"

end Role
end RedisKeeper
