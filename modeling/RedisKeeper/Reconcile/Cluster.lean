import RedisKeeper.Api.Pod
import RedisKeeper.Reconcile.Provision
import RedisKeeper.Reconcile.Status
import RedisKeeper.Reconcile.Tick

/-
One look at a cluster.

The StatefulSets and Services of both groups are applied first.  If a
StatefulSet was only created now, that is reported and the look is over; else a
pass over the nodes follows, and its report goes into an event, the status and
the metrics.
-/
namespace RedisKeeper
namespace Reconcile

/-- Applies the objects of one group.  A group without nodes has no Services.
The result tells whether its StatefulSet was created. -/
def provideGroup (c : RedisCluster) (role : Role) : Act Bool := do
  let created ← provideStatefulSet (c.statefulSet role)
  if 0 < (Target.ofCluster c).replicas role then
    provideServices (c.services role)
  return created

/-- Applies the objects of both groups, the leaders' first. -/
def provideGroups (c : RedisCluster) : Act Bool := do
  let leaders ← provideGroup c .leader
  let followers ← provideGroup c .follower
  return leaders || followers

def readReadyCounts (c : RedisCluster) (ns : String) : Act ReadyCounts := do
  return {
    leaders := ← readReady ns (roleObjectName c.name .leader)
    followers := ← readReady ns (roleObjectName c.name .follower) }

def writeClusterStatus (c : RedisCluster) (ns : String) (status : ClusterStatus) : Act Unit := do
  let _ ← attempt (Api.mergeStatus .redisCluster RedisCluster.format ns c.name status.toJson)

/-- Reason and action of the event about a step. -/
def stepEvent? : Step → Option (String × String)
  | .none => none
  | .bootstrap => some ("Bootstrapping", "CreateCluster")
  | .attachFollowers => some ("Replicating", "AttachFollowers")
  | .failover => some ("FailingOver", "ResetNodes")

def publishStep (setting : Setting) (c : RedisCluster) (report : Report) : Api.Work Unit :=
  match stepEvent? report.step with
  | none => return ()
  | some (reason, action) =>
    setting.publish c.owner (if report.succeeded then .normal else .warning) reason action
      report.message

/-- What is recorded of a pass that has been reported in the status. -/
def passObservations (c : RedisCluster) (ns : String) (ready : ReadyCounts) (report : Report)
    (seconds : Float) : List Metrics.Observation :=
  let t := Target.ofCluster c
  [.replicasSeen ⟨ns, c.name, Role.leader.name⟩ t.leaders ready.leaders.toInt,
   .replicasSeen ⟨ns, c.name, Role.follower.name⟩ t.followers ready.followers.toInt] ++
  (match report.clusterNodes, report.failedNodes with
    | some nodes, some failed => [.nodesSeen ⟨ns, c.name⟩ nodes failed]
    | _, _ => []) ++
  (if report.step = .none then [] else [.stepTaken ⟨ns, c.name, report.step.name⟩]) ++
  [.reconciled ⟨RedisCluster.kind, ns, c.name⟩ seconds]

/-- The part of a look that comes after all objects are known to be there. -/
def passOver (setting : Setting) (c : RedisCluster) (ns : String) : Api.Work Tick := do
  match ← (readReadyCounts c ns).run with
  | .error e => return .failed e
  | .ok ready =>
    let report ← Api.perform (Node.pass setting.tools (.ofCluster c) ready)
    publishStep setting c report
    match ← (writeClusterStatus c ns (c.statusAfter report ready setting.now.text)).run with
    | .error e => return { result := .error e, report := some report }
    | .ok () =>
      return {
        result := .ok report.outcome.requeue
        report := some report
        observations := some (passObservations c ns ready report) }

/-- One look at a cluster. -/
def cluster (setting : Setting) (c : RedisCluster) : Api.Work Tick := do
  match c.metadata.ns with
  | none => return .failed (.missingField "metadata.namespace")
  | some ns =>
    -- What belongs to a cluster goes away with it.
    if c.metadata.deletionTimestamp.isSome then return .ended .none
    else
      match c.spec.firstInvalid with
      | some fault =>
        setting.publish c.owner .warning "InvalidSpec" "Validate" fault.message
        return .failed (.invalid fault.message)
      | none =>
        match ← (provideGroups c).run with
        | .error e => return .failed e
        | .ok true =>
          setting.publish c.owner .normal "Creating" "CreateResources"
            "Created StatefulSets for leaders and followers"
          match ← (writeClusterStatus c ns (c.statusOnCreation setting.now.text)).run with
          | .error e => return .failed e
          | .ok () => return .ended .immediate
        | .ok false => passOver setting c ns

end Reconcile
end RedisKeeper
