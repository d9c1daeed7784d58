import RedisKeeper.Proofs.Reconcile.Reporting

/-
A status that is built again from what it was built from.

Each verdict of a build is on an aspect of its own, so every one of them is found in the
conditions that the build leaves (`find?_statusAfter_ready` and those that follow).  A
verdict that is found is not changed by stating it at another time
(`Verdict.set_eq_self`), and thus neither is the status (`status_rebuilt`).
-/
namespace RedisKeeper

/-- To state a stored verdict again, at whatever time, changes nothing. -/
theorem Verdict.set_eq_self {v : Verdict} {aspect time : String} {generation : Option Int64}
    {cs : Conditions} (h : cs.find? aspect = some (v.condition aspect time generation))
    (now : String) : cs.set (v.condition aspect now generation) = cs := by
  have hstored : cs.find? (v.condition aspect now generation).aspect =
      some { v.condition aspect now generation with lastTransitionTime := time } := h
  exact Conditions.set_eq_self hstored

attribute [ext] ClusterStatus

namespace RedisCluster

variable (c : RedisCluster) (report : Report) (ready : ReadyCounts) (now : Readings)

/-- What a build says of readiness. -/
def convergedVerdict (report : Report) : Verdict :=
  ⟨report.outcome = .converged, report.outcome.phase.name, report.message⟩

/-- What a build says of progress. -/
def underWayVerdict (report : Report) : Verdict :=
  ⟨!(report.outcome = .converged : Bool), report.outcome.phase.name, report.message⟩

theorem conditions_statusAfter :
    (c.statusAfter report ready now).conditions =
      (c.conditionsWith now (convergedVerdict report) (underWayVerdict report)).set
        ((degradedVerdict report).condition "Degraded" now.degraded c.metadata.generation) := rfl

theorem find?_statusAfter_ready :
    ∃ time, (c.statusAfter report ready now).conditions.find? "Ready" =
      some ((convergedVerdict report).condition "Ready" time c.metadata.generation) := by
  rw [conditions_statusAfter, Conditions.find?_set_ne (by decide : "Ready" ≠ "Degraded")]
  exact find?_conditionsWith_ready c now _ _

theorem find?_statusAfter_progressing :
    ∃ time, (c.statusAfter report ready now).conditions.find? "Progressing" =
      some ((underWayVerdict report).condition "Progressing" time c.metadata.generation) := by
  rw [conditions_statusAfter, Conditions.find?_set_ne (by decide : "Progressing" ≠ "Degraded")]
  exact find?_conditionsWith_progressing c now _ _

theorem find?_statusAfter_degraded :
    ∃ time, (c.statusAfter report ready now).conditions.find? "Degraded" =
      some ((degradedVerdict report).condition "Degraded" time c.metadata.generation) :=
  (degradedVerdict report).find?_set "Degraded" now.degraded c.metadata.generation _

variable {c report ready now}

/-- A cluster that has the status of a build gets the same status from another build, unless
its generation is another. -/
theorem statusAfter_again {c' : RedisCluster}
    (hstatus : c'.status = some (c.statusAfter report ready now))
    (hgeneration : c'.metadata.generation = c.metadata.generation) (later : Readings) :
    c'.statusAfter report ready later = c.statusAfter report ready now := by
  have hprevious : c'.previousStatus = c.statusAfter report ready now := by
    rw [previousStatus, hstatus, Option.getD_some]
  have hconditions : (c'.statusAfter report ready later).conditions =
      (c.statusAfter report ready now).conditions := by
    obtain ⟨_, hready⟩ := c.find?_statusAfter_ready report ready now
    obtain ⟨_, hprogressing⟩ := c.find?_statusAfter_progressing report ready now
    obtain ⟨_, hdegraded⟩ := c.find?_statusAfter_degraded report ready now
    rw [conditions_statusAfter, conditionsWith, hprevious, hgeneration,
      Verdict.set_eq_self hready, Verdict.set_eq_self hprogressing, Verdict.set_eq_self hdegraded]
  -- Where no nodes were counted, the count before stays, and so it does again.
  have hcount (counted : Option Int32) (before : Int32) :
      counted.getD (counted.getD before) = counted.getD before := by
    rw [← Option.getD_or, Option.or_self]
  have hclusterNodes : (c'.statusAfter report ready later).clusterNodes =
      (c.statusAfter report ready now).clusterNodes := by
    rw [statusAfter, hprevious, statusAfter]
    exact hcount _ _
  have hfailedNodes : (c'.statusAfter report ready later).failedNodes =
      (c.statusAfter report ready now).failedNodes := by
    rw [statusAfter, hprevious, statusAfter]
    exact hcount _ _
  exact ClusterStatus.ext rfl rfl rfl hclusterNodes hfailedNodes hgeneration hconditions

end RedisCluster

namespace RedisSingle

/-- An instance that has the status of a build gets the same status from another build, unless
its generation is another. -/
theorem statusAfter_again {s s' : RedisSingle} {ready : Int32} {nodes : List String} {now : String}
    (hstatus : s'.status = some (s.statusAfter ready nodes now))
    (hgeneration : s'.metadata.generation = s.metadata.generation) (later : String) :
    s'.statusAfter ready nodes later = s.statusAfter ready nodes now := by
  have hprevious : s'.previousStatus = s.statusAfter ready nodes now := by
    rw [previousStatus, hstatus, Option.getD_some]
  obtain ⟨_, hready⟩ :=
    (readyVerdict ready).find?_set "Ready" now s.metadata.generation s.previousStatus.conditions
  rw [statusAfter, hprevious, hgeneration, statusAfter, Verdict.set_eq_self hready]

end RedisSingle

/-- Whatever the status before, two builds from the same report and counts come to the same
status if the second one starts from what the first one left, whatever the clock shows; and
so do two builds for an instance. -/
theorem status_rebuilt :
    (∀ (c : RedisCluster) (report : Report) (ready : ReadyCounts) (now later : Readings),
      { c with status := some (c.statusAfter report ready now) }.statusAfter report ready later =
        c.statusAfter report ready now) ∧
    ∀ (s : RedisSingle) (ready : Int32) (nodes : List String) (now later : String),
      { s with status := some (s.statusAfter ready nodes now) }.statusAfter ready nodes later =
        s.statusAfter ready nodes now := by
  constructor
  · intro c report ready now later
    apply RedisCluster.statusAfter_again
    · rfl
    · rfl
  · intro s ready nodes now later
    apply RedisSingle.statusAfter_again
    · rfl
    · rfl

end RedisKeeper
