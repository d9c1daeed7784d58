import RedisKeeper.Node.Call
import RedisKeeper.Topology.Snapshot

/-
Reading a cluster's table from its leaders.
-/
namespace RedisKeeper
namespace Node

/-- The table as one pod's node sees it.  The session is closed whether or not
the table could be read. -/
def inspect (tcp : UInt16) (pod : PodName) : Work (Except Error Snapshot) := do
  match ← resolve pod with
  | .error e => return .error e
  | .ok address =>
    match ← store (.connect address.host tcp) with
    | .error e => return .error (.store e)
    | .ok () =>
      let table ← store (.nodes address.host)
      let _ ← store (.close address.host)
      match table with
      | .error e => return .error (.store e)
      | .ok text => return .ok (.ofText text)

/-- The table of the first pod that can be inspected, empty if none can. -/
def firstTable (tcp : UInt16) : List PodName → Work Snapshot
  | [] => return .empty
  | pod :: pods => do
    match ← inspect tcp pod with
    | .ok table => return table
    | .error _ => firstTable tcp pods

/-- The pods that are asked for the table: all leaders, and the first one even
where no leader is wanted. -/
def witnesses (t : Target) : List PodName :=
  (List.range (max t.leaders 1)).map (t.pod .leader)

/-- The table of a cluster. -/
def observe (tcp : UInt16) (t : Target) : Work Snapshot := firstTable tcp (witnesses t)

end Node
end RedisKeeper
