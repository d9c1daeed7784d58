import Mathlib.Data.List.Nodup
import RedisKeeper.Proofs.Node.Calm
import RedisKeeper.Proofs.Node.Visits

/-
Resetting all nodes of a cluster.

Every node is visited once, the leaders before the followers, whatever becomes of the others.
In its session a node is asked to reset itself, and to discard its data just when it did not
(`Visit.Resets`); how it is counted is told by the answers to that (`Visit.fate`).  A pass
that resets the nodes is reported to have succeeded when no node counts as failed
(`failover_accounted`).
-/
namespace RedisKeeper
namespace Node

variable {tools : Tools} {tcp : UInt16} {t : Target} {log : Log} {pod : PodName}

def Command.hasReset : Command → Bool
  | reset (.ok _) => true
  | _ => false

def Command.hasFlushed : Command → Bool
  | flush (.ok _) => true
  | _ => false

namespace Visit

/-- Whether the node is asked for one reset, and behind a reset that failed for one flush. -/
def Resets : Visit → Prop
  | session _ _ commands _ =>
    (∃ u, commands = [.reset (.ok u)]) ∨
      ∃ e answer, commands = [.reset (.error e), .flush answer]
  | _ => True

def fate : Visit → Resetting
  | session _ _ commands _ =>
    if commands.any Command.hasReset then .reset
    else if commands.any Command.hasFlushed then .flushed
    else .failed
  | _ => .failed

end Visit

theorem resetting_of_wasReset {result : Resetting} (h : WasReset tcp pod log result) :
    ∃ v : Visit, v.pod = pod ∧ log = v.log tcp ∧ v.Resets ∧ v.fate = result := by
  cases h with
  | unresolved e => exact ⟨.unresolved pod e, rfl, rfl, trivial, rfl⟩
  | unconnected a e => exact ⟨.refused pod a e, rfl, rfl, trivial, rfl⟩
  | reset a closing =>
    exact ⟨.session pod a [.reset (.ok ())] closing, rfl, rfl, .inl ⟨_, rfl⟩, rfl⟩
  | flushed a e closing =>
    exact ⟨.session pod a [.reset (.error e), .flush (.ok ())] closing, rfl, rfl,
      .inr ⟨_, _, rfl⟩, rfl⟩
  | unflushed a e e' closing =>
    exact ⟨.session pod a [.reset (.error e), .flush (.error e')] closing, rfl, rfl,
      .inr ⟨_, _, rfl⟩, rfl⟩

theorem resettings_of_each {pods : List PodName} {results : List Resetting}
    (h : (Program.each (resetNode tcp) pods).Yields log results) :
    ∃ visits : List Visit, visits.map Visit.pod = pods ∧ log = visits.flatMap (Visit.log tcp) ∧
      (∀ v ∈ visits, v.Resets) ∧ visits.map Visit.fate = results := by
  induction pods generalizing log results with
  | nil =>
    obtain ⟨rfl, rfl⟩ := Program.yields_each_nil.mp h
    exact ⟨[], rfl, rfl, List.forall_mem_nil _, rfl⟩
  | cons pod pods ih =>
    obtain ⟨first, second, result, more, rfl, rfl, hfirst, hsecond⟩ :=
      Program.yields_each_cons.mp h
    obtain ⟨v, rfl, rfl, hresets, rfl⟩ := resetting_of_wasReset (wasReset_of_yields hfirst)
    obtain ⟨visits, rfl, rfl, hall, rfl⟩ := ih hsecond
    exact ⟨v :: visits, rfl, List.flatMap_cons.symm, List.forall_mem_cons.mpr ⟨hresets, hall⟩, rfl⟩

theorem allPods_eq (t : Target) :
    allPods t =
      (List.range t.leaders).map (t.pod .leader) ++
        (List.range t.followers).map (t.pod .follower) := by
  simp [allPods, Role.all, Target.replicas]

theorem nodup_allPods (t : Target) : (allPods t).Nodup := by
  have hrole : ∀ role, ((List.range (t.replicas role)).map (t.pod role)).Nodup := by
    intro role
    apply List.Nodup.map _ List.nodup_range
    intro i j h
    exact (Target.pod_inj h).2
  rw [allPods_eq]
  refine List.nodup_append.mpr ⟨hrole .leader, hrole .follower, ?_⟩
  intro first hfirst second hsecond heq
  obtain ⟨i, -, rfl⟩ := List.mem_map.mp hfirst
  obtain ⟨j, -, rfl⟩ := List.mem_map.mp hsecond
  exact absurd (Target.pod_inj heq).1 nofun

theorem ResetTally.total_of (results : List Resetting) :
    (ResetTally.of results).reset + (ResetTally.of results).flushed +
      (ResetTally.of results).failed = results.length := by
  unfold ResetTally.of
  induction results with
  | nil => rfl
  | cons result results ih =>
    cases result <;> simp at ih ⊢ <;> omega

/-- The visits in which all nodes of a cluster are reset, and how they are counted. -/
structure FailedOver (t : Target) (visits : List Visit) (tally : ResetTally) : Prop where
  pods : visits.map Visit.pod =
    (List.range t.leaders).map (t.pod .leader) ++ (List.range t.followers).map (t.pod .follower)
  once : (visits.map Visit.pod).Nodup
  resets : ∀ v ∈ visits, v.Resets
  reset : tally.reset = visits.countP fun v => v.fate = .reset
  flushed : tally.flushed = visits.countP fun v => v.fate = .flushed
  failed : tally.failed = visits.countP fun v => v.fate = .failed
  total : tally.reset + tally.flushed + tally.failed = t.leaders + t.followers

theorem failedOver_of_each {results : List Resetting}
    (h : (Program.each (resetNode tcp) (allPods t)).Yields log results) :
    ∃ visits : List Visit, log = visits.flatMap (Visit.log tcp) ∧
      FailedOver t visits (.of results) := by
  obtain ⟨visits, hpods, hlog, hresets, rfl⟩ := resettings_of_each h
  have hcount : ∀ fate, (visits.map Visit.fate).count fate =
      visits.countP fun v => v.fate = fate := by
    intro fate
    rw [List.count, List.countP_map]
    rfl
  have hlength : (visits.map Visit.fate).length = t.leaders + t.followers := by
    have hall := congrArg List.length (hpods.trans (allPods_eq t))
    simpa using hall
  refine ⟨visits, hlog, hpods.trans (allPods_eq t), hpods ▸ nodup_allPods t, hresets,
    hcount _, hcount _, hcount _, ?_⟩
  rw [ResetTally.total_of, hlength]

theorem failedOver_of_pass {ready : ReadyCounts} {report : Report}
    (h : Passed tools t ready log report) (hstep : report.step = .failover) :
    ∃ seen visits tally, log = seen ++ visits.flatMap (Visit.log tools.tcp) ∧
      (∀ e ∈ seen, e.query.discards = false) ∧ FailedOver t visits tally ∧
        report.message = tally.message ∧ (report.succeeded = true ↔ tally.failed = 0) := by
  cases h with
  | waiting => exact absurd hstep nofun
  | @looked seen acted table result _ hseen hacted =>
    have hdecided : decideStep t.leaders t.followers table = .failover := hstep
    rw [hdecided] at hacted
    cases hacted with
    | @reset log results hlog =>
      obtain ⟨visits, rfl, hvisits⟩ := failedOver_of_each hlog
      refine ⟨seen, visits, _, rfl, ?_, hvisits, rfl, beq_iff_eq⟩
      intro e he
      cases reads_of_observed hseen e he with
      | resolve => rfl
      | call answer hcall => exact hcall

/-- Whatever is answered, all nodes are visited and counted; and a pass that takes this step
does nothing else to nodes, and has succeeded when none of them counts as failed. -/
theorem failover_accounted (tools : Tools) (t : Target) {σ : Type}
    (respond : Responder interface σ) (s : σ) :
    (let run := (resetAll tools.tcp t).runLogged respond s
      ∃ visits : List Visit, run.2.1 = visits.flatMap (Visit.log tools.tcp) ∧
        FailedOver t visits run.1) ∧
    ∀ ready : ReadyCounts,
      let run := (pass tools t ready).runLogged respond s
      run.1.step = .failover →
        ∃ seen visits tally, run.2.1 = seen ++ visits.flatMap (Visit.log tools.tcp) ∧
          (∀ e ∈ seen, e.query.discards = false) ∧ FailedOver t visits tally ∧
            run.1.message = tally.message ∧ (run.1.succeeded = true ↔ tally.failed = 0) := by
  constructor
  · intro run
    have hyields := Program.yields_runLogged respond (resetAll tools.tcp t) s
    obtain ⟨log, last, results, hlog, heach, rfl, htally⟩ := Program.yields_bind.mp hyields
    obtain ⟨visits, rfl, hvisits⟩ := failedOver_of_each heach
    refine ⟨visits, hlog.trans (List.append_nil _), ?_⟩
    show FailedOver t visits ((resetAll tools.tcp t).runLogged respond s).1
    rw [htally]
    exact hvisits
  · intro ready run hstep
    have hpassed := passed_of_yields (Program.yields_runLogged respond (pass tools t ready) s)
    exact failedOver_of_pass hpassed hstep

/-- A failed leader that can be reset, one follower that can only be flushed and one that can be
neither. -/
def unruly : Responder interface Unit
  | .resolve pod, s =>
    if pod.name = "cache-leader-0" then (.ok (.v4 ⟨10, 0, 0, 1⟩), s)
    else if pod.name = "cache-follower-0" then (.ok (.v4 ⟨10, 0, 0, 2⟩), s)
    else (.ok (.v4 ⟨10, 0, 0, 3⟩), s)
  | .execute _ _, s => (.ok ⟨"", ""⟩, s)
  | .store (.nodes _), s =>
    (.ok ("a1 10.0.0.1:6379@16379 myself,master,fail - 0 0 1 connected\n" ++
      "b1 10.0.0.2:6379@16379 slave a1 0 0 1 connected\n" ++
      "b2 10.0.0.3:6379@16379 slave a1 0 0 1 connected\n"), s)
  | .store (.reset host), s =>
    if host = "10.0.0.1" then (.ok (), s) else (.error (.failed "ERR busy"), s)
  | .store (.flush host), s =>
    if host = "10.0.0.2" then (.ok (), s) else (.error (.failed "ERR busy"), s)
  | .store (.connect _ _), s | .store (.close _), s => (.ok (), s)

theorem failover_accounted_unruly :
    let tools : Tools := ⟨"redis-cli", 6379⟩
    let t : Target := ⟨"cache", "prod", 1, 2⟩
    let run := (pass tools t ⟨1, 2⟩).runLogged unruly ()
    run.1.step = .failover ∧ run.1.message = "Reset 2 nodes (1 flushed, 1 failed)" ∧
      ∃ seen visits tally, run.2.1 = seen ++ visits.flatMap (Visit.log tools.tcp) ∧
        (∀ e ∈ seen, e.query.discards = false) ∧ FailedOver t visits tally ∧
          tally.failed ≠ 0 := by
  intro tools t
  have hreport : ((pass tools t ⟨1, 2⟩).runLogged unruly ()).1 =
      { outcome := .failingOver
        step := .failover
        clusterNodes := some 3
        failedNodes := some 1
        succeeded := false
        message := "Reset 2 nodes (1 flushed, 1 failed)" } := by
    decide +kernel
  have hstep : ((pass tools t ⟨1, 2⟩).runLogged unruly ()).1.step = .failover := by
    rw [hreport]
  have haccounted := (failover_accounted tools t unruly ()).2 ⟨1, 2⟩
  obtain ⟨seen, visits, tally, hlog, hseen, hvisits, -, hsucceeded⟩ := haccounted hstep
  rw [hreport] at hsucceeded
  refine ⟨hstep, by rw [hreport], seen, visits, tally, hlog, hseen, hvisits, ?_⟩
  intro hnone
  exact absurd (hsucceeded.mpr hnone) Bool.false_ne_true

end Node
end RedisKeeper
