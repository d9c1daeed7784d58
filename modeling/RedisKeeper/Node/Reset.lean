import RedisKeeper.Node.Call

/-
Resetting all nodes of a cluster, so that it can be formed again.
-/
namespace RedisKeeper
namespace Node

/-- What became of one node. -/
inductive Resetting where
  | reset
  /-- The node could not be reset and its data was removed instead. -/
  | flushed
  | failed
deriving DecidableEq

/-- Resets the node of a pod, or else flushes it.  The session is closed in any
case. -/
def resetNode (tcp : UInt16) (pod : PodName) : Work Resetting := do
  match ← resolve pod with
  | .error _ => return .failed
  | .ok address =>
    match ← store (.connect address.host tcp) with
    | .error _ => return .failed
    | .ok () =>
      let result ← (do
        match ← store (.reset address.host) with
        | .ok () => return .reset
        | .error _ =>
          match ← store (.flush address.host) with
          | .ok () => return .flushed
          | .error _ => return .failed : Work Resetting)
      let _ ← store (.close address.host)
      return result

structure ResetTally where
  reset : Nat
  flushed : Nat
  failed : Nat
deriving DecidableEq, Inhabited

def ResetTally.of (results : List Resetting) : ResetTally where
  reset := results.count .reset
  flushed := results.count .flushed
  failed := results.count .failed

/-- All pods of a cluster, the leaders first. -/
def allPods (t : Target) : List PodName :=
  Role.all.flatMap fun role => (List.range (t.replicas role)).map (t.pod role)

/-- Resets every node of a cluster. -/
def resetAll (tcp : UInt16) (t : Target) : Work ResetTally := do
  return .of (← Program.each (resetNode tcp) (allPods t))

end Node
end RedisKeeper
