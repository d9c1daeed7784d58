import RedisKeeper.Node.Call
import RedisKeeper.Topology.Snapshot

/-
Forming a cluster: joining the leaders, then attaching each follower to the
leader with its index.  Both commands run in the first leader.
-/
namespace RedisKeeper
namespace Node

/-- The command that makes a cluster of nodes. -/
def formCommand (program : String) (endpoints : List String) : List String :=
  [program, "--cluster", "create"] ++ endpoints ++ ["--cluster-yes"]

/-- The command that makes a node a follower in a leader's cluster. -/
def joinCommand (program follower leader : String) : List String :=
  [program, "--cluster", "add-node", follower, leader, "--cluster-slave"]

/-- The address of a pod with the nodes' port. -/
def endpoint (tcp : UInt16) (pod : PodName) : Work (Except Error String) := do
  return (← resolve pod).map (·.endpoint tcp)

/-- Makes a cluster of all leaders.  Nothing is executed unless all of them have
an address. -/
def bootstrap (tools : Tools) (t : Target) : Work (Except Error Output) := do
  match ← Program.eachOk (endpoint tools.tcp) ((List.range t.leaders).map (t.pod .leader)) with
  | .error e => return .error e
  | .ok endpoints => execute t.firstLeader (formCommand tools.program endpoints)

/-- What became of one follower. -/
inductive Attachment where
  | attached (pod : String)
  /-- It is in the table already. -/
  | skipped
  /-- There is no leader with its index. -/
  | unpaired
  | failed
deriving DecidableEq

/-- Attaches the follower with an index, unless the table lists it. -/
def attach (tools : Tools) (t : Target) (table : Snapshot) (index : Nat) : Work Attachment := do
  if t.leaders ≤ index then return .unpaired
  else
    let follower := t.pod .follower index
    match ← resolve follower with
    | .error _ => return .failed
    | .ok address =>
      if table.lists address.host then return .skipped
      else
        match ← endpoint tools.tcp (t.pod .leader index) with
        | .error _ => return .failed
        | .ok leader =>
          match ← execute t.firstLeader
              (joinCommand tools.program (address.endpoint tools.tcp) leader) with
          | .error _ => return .failed
          | .ok _ => return .attached follower.name

/-- What became of all followers. -/
structure AttachTally where
  attached : List String
  skipped : Nat
  unpaired : Nat
  failed : Nat
deriving DecidableEq, Inhabited

def Attachment.pod? : Attachment → Option String
  | attached pod => some pod
  | _ => none

def AttachTally.of (results : List Attachment) : AttachTally where
  attached := results.filterMap Attachment.pod?
  skipped := results.count .skipped
  unpaired := results.count .unpaired
  failed := results.count .failed

/-- Attaches every follower that is missing from the table. -/
def attachAll (tools : Tools) (t : Target) (table : Snapshot) : Work AttachTally := do
  return .of (← Program.each (attach tools t table) (List.range t.followers))

end Node
end RedisKeeper
