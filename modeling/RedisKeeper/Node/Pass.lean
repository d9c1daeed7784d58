import RedisKeeper.Node.Formation
import RedisKeeper.Node.Inspection
import RedisKeeper.Node.Reset
import RedisKeeper.Topology.Decision

/-
One pass over a cluster: wait for its pods, read its table, decide, and take at
most one step.

Nothing is kept between passes.  What failed shows in the report, and the next
pass finds out from a new table what is still to be done.
-/
namespace RedisKeeper

/-- What a pass saw and did. -/
structure Report where
  outcome : Outcome
  step : Step
  /-- Rows of the table, if one was read. -/
  clusterNodes : Option Nat
  failedNodes : Option Nat
  /-- Whether everything that was tried worked. -/
  succeeded : Bool
  /-- A summary for people. -/
  message : String
deriving DecidableEq, Inhabited

namespace Node

/-- The report of a pass that found pods not ready. -/
def notReady (t : Target) (ready : ReadyCounts) : Report where
  outcome := .waitingForReadiness
  step := .none
  clusterNodes := none
  failedNodes := none
  succeeded := true
  message :=
    s!"{ready.leaders.toInt}/{t.leaders} leaders and " ++
    s!"{ready.followers.toInt}/{t.followers} followers ready"

def AttachTally.message (r : AttachTally) : String :=
  s!"Attached {r.attached.length} followers ({r.skipped} already joined, " ++
  s!"{r.unpaired} unpaired, {r.failed} failed)"

def ResetTally.message (r : ResetTally) : String :=
  s!"Reset {r.reset + r.flushed} nodes ({r.flushed} flushed, {r.failed} failed)"

/-- Takes a step.  The result says whether all of it worked, and what to tell
about it. -/
def take (tools : Tools) (t : Target) (table : Snapshot) : Step → Work (Bool × String)
  | .none => return (true, s!"{table.size} nodes in cluster")
  | .bootstrap => do
    match ← bootstrap tools t with
    | .ok _ => return (true, s!"Created cluster from {t.leaders} leaders")
    | .error e => return (false, s!"Cluster creation failed: {e.message}")
  | .attachFollowers => do
    let r ← attachAll tools t table
    return (r.failed == 0, r.message)
  | .failover => do
    let r ← resetAll tools.tcp t
    return (r.failed == 0, r.message)

/-- One pass.  It never fails. -/
def pass (tools : Tools) (t : Target) (ready : ReadyCounts) : Work Report := do
  if ready.meet t then
    let table ← observe tools.tcp t
    let step := decideStep t.leaders t.followers table
    let (succeeded, message) ← take tools t table step
    return {
      outcome := step.outcome
      step
      clusterNodes := some table.size
      failedNodes := some table.countFailing
      succeeded
      message }
  else return notReady t ready

end Node
end RedisKeeper
