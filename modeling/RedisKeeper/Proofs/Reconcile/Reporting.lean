import RedisKeeper.Proofs.Node.Passage
import RedisKeeper.Proofs.Node.RowOrder
import RedisKeeper.Proofs.Resource.Conditions
import RedisKeeper.Reconcile.Status

/-
What the status of a cluster says, look after look.

A look that writes a status either has just created objects or follows a pass over the
nodes.  What one look writes (`reports_write`) only rests on no two conditions being for
one aspect, which each look keeps.  Over any number of looks the counts of nodes are those
of the last table that was read, and conditions for other aspects stay as they were
(`status_over_looks`).  A status may deny failed nodes that it counts; when it does is
`statusAfter_denies_counted_iff`.
-/
namespace RedisKeeper

theorem toInt_boundedCount (n : Nat) : (boundedCount n).toInt = (min n 0x7fffffff : Nat) := by
  have hlt : min n 0x7fffffff < 2 ^ 31 := by omega
  exact Int32.toInt_ofNat_of_lt hlt

theorem Outcome.phase_eq_converged_iff {o : Outcome} : o.phase = .converged ↔ o = .converged := by
  cases o <;> decide

theorem Step.outcome_eq_failingOver_iff {step : Step} :
    step.outcome = .failingOver ↔ step = .failover := by
  cases step <;> decide

theorem Verdict.find?_set (v : Verdict) (aspect now : String) (generation : Option Int64)
    (cs : Conditions) :
    ∃ time, (Conditions.set (v.condition aspect now generation) cs).find? aspect =
      some (v.condition aspect time generation) :=
  Conditions.find?_set_self (v.condition aspect now generation) cs

namespace RedisCluster

variable (c : RedisCluster) (now : Readings) (ready progressing : Verdict)

theorem distinct_conditionsWith (h : c.previousStatus.conditions.Distinct) :
    (c.conditionsWith now ready progressing).Distinct :=
  h.set.set

theorem find?_conditionsWith_ready :
    ∃ time, (c.conditionsWith now ready progressing).find? "Ready" =
      some (ready.condition "Ready" time c.metadata.generation) := by
  obtain ⟨time, htime⟩ :=
    ready.find?_set "Ready" now.ready c.metadata.generation c.previousStatus.conditions
  refine ⟨time, ?_⟩
  rw [conditionsWith, Conditions.find?_set_ne (by decide : "Ready" ≠ "Progressing"), htime]

theorem find?_conditionsWith_progressing :
    ∃ time, (c.conditionsWith now ready progressing).find? "Progressing" =
      some (progressing.condition "Progressing" time c.metadata.generation) :=
  progressing.find?_set "Progressing" now.progressing c.metadata.generation _

theorem find?_conditionsWith_ne {aspect : String} (hready : aspect ≠ "Ready")
    (hprogressing : aspect ≠ "Progressing") :
    (c.conditionsWith now ready progressing).find? aspect =
      c.previousStatus.conditions.find? aspect := by
  rw [conditionsWith, Conditions.find?_set_ne hprogressing, Conditions.find?_set_ne hready]

theorem getElem?_conditionsWith_iff {d : Condition} (hready : d.aspect ≠ "Ready")
    (hprogressing : d.aspect ≠ "Progressing") (i : Nat) :
    (c.conditionsWith now ready progressing)[i]? = some d ↔
      c.previousStatus.conditions[i]? = some d := by
  rw [conditionsWith, Conditions.getElem?_set_iff hprogressing, Conditions.getElem?_set_iff hready]

theorem degradedVerdict_holds_iff {report : Report} :
    (degradedVerdict report).holds = true ↔
      report.outcome = .failingOver ∨ report.succeeded = false := by
  rw [← Bool.not_eq_true' report.succeeded, degradedVerdict]
  split
  · rename_i h
    exact iff_of_true rfl h
  · rename_i h
    exact iff_of_false Bool.false_ne_true h

end RedisCluster

namespace Reconcile

/-! ## Looks -/

/-- What a status is written about. -/
inductive Event where
  /-- Objects of the cluster were created. -/
  | created
  /-- A pass over its nodes is over.  The counts of ready pods that are written need not be
  those of the pass. -/
  | passed (p : Node.Passage) (ready : ReadyCounts)

/-- One look at a cluster that ends with a status. -/
structure Look where
  /-- The cluster as it is found, apart from its status. -/
  cluster : RedisCluster
  now : Readings
  event : Event

namespace Event

/-- What the conditions that are set are for. -/
def aspects : Event → List String
  | created => ["Ready", "Progressing"]
  | passed _ _ => ["Ready", "Progressing", "Degraded"]

def table? : Event → Option Snapshot
  | created => none
  | passed p _ => p.table?

end Event

/-- The status that is written where another one, or none, is found. -/
def Look.write (look : Look) (found : Option ClusterStatus) : ClusterStatus :=
  let c := { look.cluster with status := found }
  match look.event with
  | .created => c.statusOnCreation look.now
  | .passed p ready => c.statusAfter p.report ready look.now

/-- The status after some looks, each of which finds what the one before it wrote. -/
def statusOver (initial : Option ClusterStatus) : List Look → Option ClusterStatus
  | [] => initial
  | look :: looks => statusOver (some (look.write initial)) looks

/-- The table that the last pass went by, of those that went by one. -/
def lastTable? : List Look → Option Snapshot
  | [] => none
  | look :: looks => (lastTable? looks).or look.event.table?

/-- What the status that a look writes says, given the one that it found. -/
structure Look.Reports (look : Look) (before after : ClusterStatus) : Prop where
  distinct : after.conditions.Distinct
  generation : after.observedGeneration = look.cluster.metadata.generation
  /-- Only a converged cluster is ready, and every other one is on its way. -/
  verdicts : ∃ ready progressing,
    after.conditions.find? "Ready" = some ready ∧
      after.conditions.find? "Progressing" = some progressing ∧
      (after.phase = .converged ↔ ready.status = "True") ∧
      (progressing.status = "True" ↔ ready.status = "False") ∧
      ready.observedGeneration = look.cluster.metadata.generation ∧
      progressing.observedGeneration = look.cluster.metadata.generation
  trouble : match look.event with
    | .created =>
      after.conditions.find? "Degraded" = before.conditions.find? "Degraded" ∧
        after.readyLeaders = before.readyLeaders ∧
        after.readyFollowers = before.readyFollowers ∧
        after.clusterNodes = before.clusterNodes ∧ after.failedNodes = before.failedNodes
    | .passed p _ => ∃ degraded, after.conditions.find? "Degraded" = some degraded ∧
        (degraded.status = "True" ↔
          p.report.outcome = .failingOver ∨ p.report.succeeded = false)
  others : ∀ (i : Nat) (d : Condition), d.aspect ∉ look.event.aspects →
    (after.conditions[i]? = some d ↔ before.conditions[i]? = some d)

/-- Whether the counts of nodes are those of a table, or have stayed if there is none. -/
def CountsFrom (before : ClusterStatus) (table? : Option Snapshot) (after : ClusterStatus) :
    Prop :=
  match table? with
  | some table =>
    after.clusterNodes.toInt = (min table.size 0x7fffffff : Nat) ∧
      after.failedNodes.toInt = (min table.countFailing 0x7fffffff : Nat)
  | none => after.clusterNodes = before.clusterNodes ∧ after.failedNodes = before.failedNodes

/-! ## What one look writes -/

theorem Look.reports_write (look : Look) {found : Option ClusterStatus}
    (h : (found.getD {}).conditions.Distinct) :
    look.Reports (found.getD {}) (look.write found) := by
  obtain ⟨cluster, now, event⟩ := look
  let c : RedisCluster := { cluster with status := found }
  cases event with
  | created =>
    let ready : Verdict := ⟨false, "Creating", "StatefulSets created"⟩
    let progressing : Verdict := ⟨true, "Creating", "StatefulSets created"⟩
    obtain ⟨_, hready⟩ := c.find?_conditionsWith_ready now ready progressing
    obtain ⟨_, hprogressing⟩ := c.find?_conditionsWith_progressing now ready progressing
    refine ⟨c.distinct_conditionsWith now ready progressing h, rfl,
      ⟨_, _, hready, hprogressing, ?_, ?_, rfl, rfl⟩, ⟨?_, rfl, rfl, rfl, rfl⟩, ?_⟩
    · have hnot : Condition.statusText false ≠ "True" := by decide
      exact iff_of_false nofun hnot
    · exact iff_of_true rfl rfl
    · exact c.find?_conditionsWith_ne now ready progressing (by decide) (by decide)
    · intro i d hd
      simp only [Event.aspects, List.mem_cons, List.not_mem_nil, or_false, not_or] at hd
      exact c.getElem?_conditionsWith_iff now ready progressing hd.1 hd.2 i
  | passed p counts =>
    let phase := p.report.outcome.phase
    let converged : Bool := p.report.outcome = .converged
    let ready : Verdict := ⟨converged, phase.name, p.report.message⟩
    let progressing : Verdict := ⟨!converged, phase.name, p.report.message⟩
    let degraded := RedisCluster.degradedVerdict p.report
    obtain ⟨_, hready⟩ := c.find?_conditionsWith_ready now ready progressing
    obtain ⟨_, hprogressing⟩ := c.find?_conditionsWith_progressing now ready progressing
    obtain ⟨_, hdegraded⟩ := degraded.find?_set "Degraded" now.degraded cluster.metadata.generation
      (c.conditionsWith now ready progressing)
    have hother : "Ready" ≠ "Degraded" ∧ "Progressing" ≠ "Degraded" := by decide
    refine ⟨(c.distinct_conditionsWith now ready progressing h).set, rfl,
      ⟨_, _, (Conditions.find?_set_ne hother.1).trans hready,
        (Conditions.find?_set_ne hother.2).trans hprogressing, ?_, ?_, rfl, rfl⟩,
      ⟨_, hdegraded, ?_⟩, ?_⟩
    · have hphase : phase = .converged ↔ converged = true :=
        Outcome.phase_eq_converged_iff.trans decide_eq_true_iff.symm
      exact hphase.trans Condition.statusText_eq_true_iff.symm
    · have hnot : (!converged) = true ↔ converged = false := Eq.to_iff (Bool.not_eq_true' _)
      exact Condition.statusText_eq_true_iff.trans
        (hnot.trans Condition.statusText_eq_false_iff.symm)
    · exact Condition.statusText_eq_true_iff.trans RedisCluster.degradedVerdict_holds_iff
    · intro i d hd
      simp only [Event.aspects, List.mem_cons, List.not_mem_nil, or_false, not_or] at hd
      obtain ⟨hdready, hdprogressing, hddegraded⟩ := hd
      exact (Conditions.getElem?_set_iff hddegraded i).trans
        (c.getElem?_conditionsWith_iff now ready progressing hdready hdprogressing i)

theorem CountsFrom.trans {a b c : ClusterStatus} {first second : Option Snapshot}
    (hfirst : CountsFrom a first b) (hsecond : CountsFrom b second c) :
    CountsFrom a (second.or first) c := by
  cases second with
  | some table => exact hsecond
  | none =>
    obtain ⟨hnodes, hfailed⟩ := hsecond
    rw [Option.none_or]
    cases first with
    | some table => exact ⟨hnodes ▸ hfirst.1, hfailed ▸ hfirst.2⟩
    | none => exact ⟨hnodes.trans hfirst.1, hfailed.trans hfirst.2⟩

theorem Look.countsFrom_write (look : Look) (found : Option ClusterStatus) :
    CountsFrom (found.getD {}) look.event.table? (look.write found) := by
  obtain ⟨cluster, now, event⟩ := look
  cases event with
  | created => exact ⟨rfl, rfl⟩
  | passed p counts =>
    obtain ⟨hnodes, hfailed⟩ := p.counts
    simp only [write, RedisCluster.statusAfter, hnodes, hfailed, Event.table?]
    cases p.table? with
    | none => exact ⟨rfl, rfl⟩
    | some table => exact ⟨toInt_boundedCount _, toInt_boundedCount _⟩

/-! ## What many looks write -/

variable {initial : Option ClusterStatus}

theorem statusOver_concat (initial : Option ClusterStatus) (looks : List Look) (look : Look) :
    statusOver initial (looks ++ [look]) = some (look.write (statusOver initial looks)) := by
  induction looks generalizing initial with
  | nil => rfl
  | cons first looks ih => exact ih _

theorem distinct_statusOver (h : (initial.getD {}).conditions.Distinct) (looks : List Look) :
    ((statusOver initial looks).getD {}).conditions.Distinct := by
  induction looks generalizing initial with
  | nil => exact h
  | cons look looks ih => exact ih (look.reports_write h).distinct

theorem countsFrom_statusOver (initial : Option ClusterStatus) (looks : List Look) :
    CountsFrom (initial.getD {}) (lastTable? looks) ((statusOver initial looks).getD {}) := by
  induction looks generalizing initial with
  | nil => exact ⟨rfl, rfl⟩
  | cons look looks ih => exact (look.countsFrom_write initial).trans (ih _)

theorem getElem?_statusOver_iff (h : (initial.getD {}).conditions.Distinct) (looks : List Look)
    {d : Condition} (hd : d.aspect ∉ ["Ready", "Progressing", "Degraded"]) (i : Nat) :
    ((statusOver initial looks).getD {}).conditions[i]? = some d ↔
      (initial.getD {}).conditions[i]? = some d := by
  induction looks generalizing initial with
  | nil => exact Iff.rfl
  | cons look looks ih =>
    have hwrite := look.reports_write h
    -- A creation sets fewer conditions than a pass.
    have hother : d.aspect ∉ look.event.aspects := by
      cases look.event with
      | created => exact fun hmem => hd (List.mem_append_left ["Degraded"] hmem)
      | passed => exact hd
    have hnext : ((some (look.write initial)).getD {}).conditions.Distinct := hwrite.distinct
    exact (ih hnext).trans (hwrite.others i d hother)

/-- Whatever the looks before it were, a look leaves no two conditions for one aspect, and
those on readiness, progress and trouble are its own.  The counts of nodes are those of the
last table that a pass went by, if any did, and conditions for other aspects stay what and
where they were in the beginning. -/
theorem status_over_looks (h : (initial.getD {}).conditions.Distinct) (looks : List Look)
    (look : Look) :
    let before := (statusOver initial looks).getD {}
    let after := (statusOver initial (looks ++ [look])).getD {}
    look.Reports before after ∧
      CountsFrom (initial.getD {}) (lastTable? (looks ++ [look])) after ∧
      ∀ (i : Nat) (d : Condition), d.aspect ∉ ["Ready", "Progressing", "Degraded"] →
        (after.conditions[i]? = some d ↔ (initial.getD {}).conditions[i]? = some d) := by
  refine ⟨?_, countsFrom_statusOver initial _, fun i d hd => getElem?_statusOver_iff h _ hd i⟩
  rw [statusOver_concat]
  exact look.reports_write (distinct_statusOver h looks)

/-- A table with two leaders, one of which has failed. -/
def halfFailed : String :=
  "a1 10.0.0.1:6379@16379 myself,master - 0 0 1 connected 0-8191\n" ++
    "a2 10.0.0.2:6379@16379 master,fail - 0 0 2 connected 8192-16383\n"

/-- A pass over nodes that tell such a table, where pods of so many followers are ready. -/
def passOverHalfFailed (ready : ReadyCounts) : Node.Passage :=
  .answeredBy (Node.telling halfFailed) () ⟨"redis-cli", 6379⟩ ⟨"cache", "prod", 2, 1⟩ ready

/-- A table is read, objects are created anew, and pods are waited for. -/
theorem status_over_looks_halfFailed :
    let backup : Condition := ⟨"Backup", "True", "Done", "", "2024-01-01T00:00:00Z", none⟩
    let pending : Condition := ⟨"Ready", "False", "Pending", "", "2024-01-01T00:00:00Z", none⟩
    let initial : Option ClusterStatus := some { conditions := [pending, backup] }
    let looks : List Look := [
      ⟨default, "2024-01-02T00:00:00Z", .passed (passOverHalfFailed ⟨2, 1⟩) ⟨2, 1⟩⟩,
      ⟨default, "2024-01-03T00:00:00Z", .created⟩]
    let look : Look :=
      ⟨default, ⟨"2024-01-04T00:00:00Z", "2024-01-04T00:00:01Z", "2024-01-04T00:00:02Z"⟩,
        .passed (passOverHalfFailed ⟨2, 0⟩) ⟨2, 0⟩⟩
    let before := (statusOver initial looks).getD {}
    let after := (statusOver initial (looks ++ [look])).getD {}
    (initial.getD {}).conditions.Distinct ∧ look.Reports before after ∧
      CountsFrom (initial.getD {}) (some (.ofText halfFailed)) after ∧
      after.conditions[1]? = some backup := by
  intro backup pending initial looks look before after
  have hdistinct : (initial.getD {}).conditions.Distinct := by
    unfold Conditions.Distinct
    decide
  have htable : lastTable? (looks ++ [look]) = some (.ofText halfFailed) := by decide +kernel
  obtain ⟨hreports, hcounts, hothers⟩ := status_over_looks hdistinct looks look
  refine ⟨hdistinct, hreports, ?_, (hothers 1 backup (by decide)).mpr rfl⟩
  rw [← htable]
  exact hcounts

end Reconcile

/-! ## Failed nodes that a status denies -/

/-- Whether a status says in its words that no nodes have failed. -/
def ClusterStatus.DeniesFailures (s : ClusterStatus) : Prop :=
  ∃ c, s.conditions.find? "Degraded" = some c ∧ c.status = "False" ∧
    c.message = "No failed nodes observed"

theorem boundedCount_ne_zero_iff {n : Nat} : boundedCount n ≠ 0 ↔ 0 < n := by
  have hzero : boundedCount n = 0 ↔ min n 0x7fffffff = 0 := by
    rw [← Int32.toInt_inj, toInt_boundedCount]
    exact Int.ofNat_eq_zero
  rw [Ne, hzero]
  omega

namespace RedisCluster

variable (c : RedisCluster) (now : Readings)

theorem degradedVerdict_message {report : Report} (h : (degradedVerdict report).holds = false) :
    (degradedVerdict report).message = "No failed nodes observed" := by
  rw [degradedVerdict] at h ⊢
  split
  · rename_i hfailed
    rw [if_pos hfailed] at h
    exact absurd h.symm Bool.false_ne_true
  · rfl

theorem statusAfter_deniesFailures_iff {report : Report} {ready : ReadyCounts} :
    (c.statusAfter report ready now).DeniesFailures ↔
      report.outcome ≠ .failingOver ∧ report.succeeded = true := by
  have hholds : (degradedVerdict report).holds = false ↔
      report.outcome ≠ .failingOver ∧ report.succeeded = true := by
    rw [← Bool.not_eq_true, degradedVerdict_holds_iff, not_or, Bool.not_eq_false]
  rw [← hholds]
  obtain ⟨time, hfind⟩ := (degradedVerdict report).find?_set "Degraded" now.degraded
    c.metadata.generation (c.conditionsWith now _ _)
  constructor
  · rintro ⟨degraded, hdegraded, hstatus, -⟩
    obtain rfl := Option.some.inj (hfind.symm.trans hdegraded)
    exact Condition.statusText_eq_false_iff.mp hstatus
  · intro h
    exact ⟨_, hfind, Condition.statusText_eq_false_iff.mpr h, degradedVerdict_message h⟩

/-- A status denies failed nodes unless its pass resets nodes or a command of it failed.  So
it also denies nodes that it counts, if the pass found too few or too many rows beside a
failed one, or no leader is wanted, or it read no table and the count is an old one. -/
theorem statusAfter_denies_counted_iff (p : Node.Passage) (ready : ReadyCounts) :
    let after := c.statusAfter p.report ready now
    after.DeniesFailures ∧ after.failedNodes ≠ 0 ↔
      p.report.succeeded = true ∧
        match p.table? with
        | some table =>
          0 < table.countFailing ∧
            (p.target.leaders = 0 ∨ table.size ≠ p.target.leaders + p.target.followers)
        | none => c.previousStatus.failedNodes ≠ 0 := by
  intro after
  have hcounted : after.failedNodes =
      ((p.table?.map Snapshot.countFailing).map boundedCount).getD
        c.previousStatus.failedNodes := by
    rw [← p.counts.2]
    rfl
  rw [statusAfter_deniesFailures_iff, hcounted, Node.Passage.table?]
  cases hmeet : p.ready.meet p.target with
  | false =>
    rw [Node.Passage.report_of_waiting hmeet]
    simp [Node.notReady]
  | true =>
    obtain ⟨result, hreport⟩ := Node.Passage.report_of_meet hmeet
    generalize Node.tableIn p.log = table at hreport ⊢
    have houtcome : p.report.outcome = .failingOver ↔
        0 < p.target.leaders ∧ table.size = p.target.leaders + p.target.followers ∧
          0 < table.countFailing := by
      rw [hreport]
      exact Step.outcome_eq_failingOver_iff.trans decideStep_eq_failover_iff
    simp only [if_true, Option.map_some, Option.getD_some, boundedCount_ne_zero_iff, Ne, houtcome]
    grind

/-- An attached follower makes all of a pass over a table with a failed leader succeed. -/
theorem statusAfter_denies_halfFailed :
    let after := statusAfter default (Reconcile.passOverHalfFailed ⟨2, 1⟩).report ⟨2, 1⟩
      "2024-01-01T00:00:00Z"
    after.DeniesFailures ∧ after.failedNodes = 1 := by
  refine ⟨statusAfter_deniesFailures_iff _ _ |>.mpr ?_, ?_⟩
  · decide +kernel
  · decide +kernel

end RedisCluster
end RedisKeeper
