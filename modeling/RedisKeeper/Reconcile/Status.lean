import RedisKeeper.Node.Pass
import RedisKeeper.Resource.Single

/-
The status that the operator writes after it has looked at a resource.

The clock is read anew for each condition that is set.
-/
namespace RedisKeeper

/-- A count as a status holds it, at most the greatest 32-bit number. -/
def boundedCount (n : Nat) : Int32 := Int32.ofNat (min n 0x7fffffff)

/-- What the clock shows as each condition of a cluster is set. -/
structure Readings where
  ready : String
  progressing : String
  degraded : String
deriving DecidableEq, Inhabited

/-- The clock may show the same each time. -/
instance : Coe String Readings := ⟨fun now => ⟨now, now, now⟩⟩

namespace RedisCluster

def previousStatus (c : RedisCluster) : ClusterStatus := c.status.getD {}

/-- The conditions with new verdicts on readiness and progress. -/
def conditionsWith (c : RedisCluster) (now : Readings) (ready progressing : Verdict) :
    Conditions :=
  let generation := c.metadata.generation
  (c.previousStatus.conditions.set (ready.condition "Ready" now.ready generation)).set
    (progressing.condition "Progressing" now.progressing generation)

/-- The status after objects of the cluster were created. -/
def statusOnCreation (c : RedisCluster) (now : Readings) : ClusterStatus :=
  { c.previousStatus with
    phase := .creating
    observedGeneration := c.metadata.generation
    conditions :=
      c.conditionsWith now ⟨false, "Creating", "StatefulSets created"⟩
        ⟨true, "Creating", "StatefulSets created"⟩ }

/-- What a report says about failed nodes and commands. -/
def degradedVerdict (report : Report) : Verdict :=
  if report.outcome = .failingOver ∨ !report.succeeded then
    ⟨true, if report.succeeded then "FailedNodes" else "CommandFailed", report.message⟩
  else ⟨false, "Healthy", "No failed nodes observed"⟩

/-- The status after a pass.  A pass that read no table leaves the counts of
nodes as they were. -/
def statusAfter (c : RedisCluster) (report : Report) (ready : ReadyCounts) (now : Readings) :
    ClusterStatus :=
  let phase := report.outcome.phase
  let converged : Bool := report.outcome = .converged
  let conditions :=
    c.conditionsWith now ⟨converged, phase.name, report.message⟩
      ⟨!converged, phase.name, report.message⟩
  { phase
    readyLeaders := ready.leaders
    readyFollowers := ready.followers
    clusterNodes := (report.clusterNodes.map boundedCount).getD c.previousStatus.clusterNodes
    failedNodes := (report.failedNodes.map boundedCount).getD c.previousStatus.failedNodes
    observedGeneration := c.metadata.generation
    conditions :=
      conditions.set
        ((degradedVerdict report).condition "Degraded" now.degraded c.metadata.generation) }

end RedisCluster

namespace RedisSingle

def previousStatus (s : RedisSingle) : SingleStatus := s.status.getD {}

/-- Whether a status differs from what was just seen.  The order of the nodes
counts. -/
def statusDiffers (previous : SingleStatus) (ready : Int32) (nodes : List String)
    (generation : Option Int64) : Bool :=
  previous.readyReplicas ≠ ready || previous.nodes ≠ nodes ||
    previous.observedGeneration ≠ generation

def readyVerdict (ready : Int32) : Verdict :=
  if 1 ≤ ready then ⟨true, "Ready", "Instance is ready"⟩
  else ⟨false, "WaitingForReadiness", "Instance is not ready"⟩

def statusAfter (s : RedisSingle) (ready : Int32) (nodes : List String) (now : String) :
    SingleStatus where
  readyReplicas := ready
  nodes := nodes
  observedGeneration := s.metadata.generation
  conditions :=
    s.previousStatus.conditions.set
      ((readyVerdict ready).condition "Ready" now s.metadata.generation)

end RedisSingle
end RedisKeeper
