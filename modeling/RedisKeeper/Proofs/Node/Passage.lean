import RedisKeeper.Proofs.Node.Convergence

/-
Passes as what was asked and reported in them, and runs of passes over a cluster that no
command has formed yet.

The counts that a pass reports are those of the table that it went by (`Passage.counts`).
While nodes know no others, a pass forms the cluster if two leaders or more are wanted.  One
leader on its own passes for a cluster that was formed, so a pass that it tells its table is
content or goes on to attach followers (`step_while_unformed`).
-/
namespace RedisKeeper

/-! ## Tables of nodes that know no others -/

namespace Snapshot

/-- Whether a table is that of a node that knows no other. -/
def IsLone (table : Snapshot) : Prop :=
  table.records.map (fun r => (r.flags, r.linkState)) =
    [("myself,master".toList, "connected".toList)]

instance (table : Snapshot) : Decidable table.IsLone := inferInstanceAs (Decidable (_ = _))

variable {table : Snapshot} {leaders followers : Nat}

theorem IsLone.exists_record (h : table.IsLone) :
    ∃ r, table.records = [r] ∧ r.flags = "myself,master".toList ∧
      r.linkState = "connected".toList := by
  obtain ⟨r, hr, hcolumns⟩ := List.map_eq_singleton_iff.mp h
  exact ⟨r, hr, congrArg Prod.fst hcolumns, congrArg Prod.snd hcolumns⟩

theorem IsLone.size_eq (h : table.IsLone) : table.size = 1 := by
  obtain ⟨r, hr, -⟩ := h.exists_record
  rw [size, hr]
  rfl

/-- A node on its own counts as a leader. -/
theorem IsLone.countRole_leader (h : table.IsLone) : table.countRole .leader = 1 := by
  obtain ⟨r, hr, hflags, -⟩ := h.exists_record
  have hplays : r.plays .leader = true := by
    rw [Record.plays, hflags]
    decide
  rw [countRole, hr, List.countP_singleton, hplays]
  rfl

theorem IsLone.countFailing_eq (h : table.IsLone) : table.countFailing = 0 := by
  obtain ⟨r, hr, hflags, hlink⟩ := h.exists_record
  have hsound : r.isFailing = false := by
    rw [Record.isFailing, hflags, hlink]
    decide
  rw [countFailing, hr, List.countP_singleton, hsound]
  rfl

theorem IsLone.decideStep_eq (h : table.IsLone) (hleaders : 1 ≤ leaders) :
    decideStep leaders followers table =
      if 2 ≤ leaders then .bootstrap else if 0 < followers then .attachFollowers else .none := by
  rw [decideStep, h.size_eq, h.countRole_leader, h.countFailing_eq]
  grind

theorem decideStep_empty (hleaders : 1 ≤ leaders) :
    decideStep leaders followers .empty = .bootstrap := by
  have hsize : Snapshot.empty.size = 0 := rfl
  have hrole : Snapshot.empty.countRole .leader = 0 := rfl
  rw [decideStep_eq_bootstrap_iff, hsize, hrole]
  omega

end Snapshot

namespace Node

/-! ## Passes -/

/-- A pass over a cluster, with all that was asked and answered. -/
structure Passage where
  tools : Tools
  target : Target
  ready : ReadyCounts
  log : Log
  report : Report
  ran : (pass tools target ready).Yields log report

namespace Passage

/-- The pass that a responder answers. -/
def answeredBy {σ : Type} (respond : Responder interface σ) (s : σ) (tools : Tools)
    (target : Target) (ready : ReadyCounts) : Passage where
  tools
  target
  ready
  log := ((pass tools target ready).runLogged respond s).2.1
  report := ((pass tools target ready).runLogged respond s).1
  ran := Program.yields_runLogged respond (pass tools target ready) s

/-- The table that the pass went by, which is empty if no leader told one.  A pass that
waits for pods goes by none. -/
def table? (p : Passage) : Option Snapshot :=
  if p.ready.meet p.target then some (tableIn p.log) else none

theorem report_of_waiting {p : Passage} (h : p.ready.meet p.target = false) :
    p.report = notReady p.target p.ready := by
  obtain ⟨tools, target, ready, log, report, ran⟩ := p
  cases passed_of_yields ran with
  | waiting => rfl
  | looked hmeet => exact absurd (h.symm.trans hmeet) Bool.false_ne_true

theorem report_of_meet {p : Passage} (h : p.ready.meet p.target = true) :
    ∃ result, p.report = reportOf p.target (tableIn p.log) result := by
  obtain ⟨tools, target, ready, log, report, ran⟩ := p
  cases passed_of_yields ran with
  | waiting hmeet => exact absurd (hmeet.symm.trans h) Bool.false_ne_true
  | @looked seen acted table result _ hseen hacted =>
    -- No step reads another table, so that of the whole log is the one that was read first.
    have htable : tableIn (seen ++ acted) = table :=
      tableIn_observed_append hseen fun e he => (asks_of_took hacted e he).toldTable?_eq_none
    exact ⟨result, by rw [htable]⟩

theorem counts (p : Passage) :
    p.report.clusterNodes = p.table?.map Snapshot.size ∧
      p.report.failedNodes = p.table?.map Snapshot.countFailing := by
  rw [table?]
  cases hmeet : p.ready.meet p.target with
  | false =>
    rw [report_of_waiting hmeet]
    exact ⟨rfl, rfl⟩
  | true =>
    obtain ⟨result, hreport⟩ := report_of_meet hmeet
    rw [hreport]
    exact ⟨rfl, rfl⟩

/-- The step that a pass dispatched.  A pass that waits dispatches none, and neither does one
whose table asks for nothing. -/
def dispatched? (p : Passage) : Option Step :=
  (p.table?.map (decideStep p.target.leaders p.target.followers)).filter (· ≠ .none)

theorem dispatched?_eq_some_iff {p : Passage} {step : Step} :
    p.dispatched? = some step ↔ step ≠ .none ∧ p.report.step = step := by
  rw [dispatched?, table?]
  cases hmeet : p.ready.meet p.target with
  | false =>
    have hstep : p.report.step = .none := by
      rw [report_of_waiting hmeet]
      rfl
    simp [hstep, eq_comm]
  | true =>
    obtain ⟨result, hreport⟩ := report_of_meet hmeet
    have hstep : p.report.step =
        decideStep p.target.leaders p.target.followers (tableIn p.log) := by
      rw [hreport]
      rfl
    rw [if_pos rfl, Option.map_some, ← hstep, Option.filter_eq_some_iff, Option.some.injEq]
    constructor
    · rintro ⟨rfl, hne⟩
      exact ⟨of_decide_eq_true hne, rfl⟩
    · rintro ⟨hne, rfl⟩
      exact ⟨rfl, decide_eq_true hne⟩

/-- Whether some node told its table. -/
def Told (p : Passage) : Prop := ∃ e ∈ p.log, toldTable? e ≠ none

/-- All tables are told before any command is run. -/
theorem not_isCommand_of_told {p : Passage} {before after : Log} {e : Exchange interface}
    (hlog : p.log = before ++ e :: after) (he : toldTable? e ≠ none) :
    ∀ x ∈ before, x.query.isCommand = false := by
  obtain ⟨tools, target, ready, log, report, ran⟩ := p
  cases passed_of_yields ran with
  | waiting => exact absurd hlog (by simp)
  | @looked seen acted table result _ hseen hacted =>
    have hsilent : ∀ x ∈ acted, toldTable? x = none := fun x hx =>
      (asks_of_took hacted x hx).toldTable?_eq_none
    have hreads : ∀ x ∈ seen, x.query.isCommand = false := by
      intro x hx
      cases reads_of_observed hseen x hx with
      | resolve => rfl
      | call => rfl
    rcases List.append_eq_append_iff.mp hlog with ⟨part, rfl, hacted⟩ | ⟨part, rfl, -⟩
    · exact absurd (hsilent e (by simp [hacted])) he
    · exact fun x hx => hreads x (List.mem_append_left _ hx)

end Passage

/-! ## Runs of passes -/

/-- All that was asked in passes, one after the other. -/
def logOf (passages : List Passage) : Log := passages.flatMap Passage.log

/-- Whether every node that told its table before a command had formed the cluster knew no
other. -/
def Lonely (log : Log) : Prop :=
  ∀ before e after text, log = before ++ e :: after → ¬ Site.Formed before →
    toldTable? e = some text → (Snapshot.ofText text).IsLone

theorem formed_append {first second : Log} :
    Site.Formed (first ++ second) ↔ Site.Formed first ∨ Site.Formed second := by
  simp only [Site.Formed, List.mem_append, or_and_right, exists_or]

theorem not_formed_of_not_isCommand {log : Log} (h : ∀ e ∈ log, e.query.isCommand = false) :
    ¬ Site.Formed log := by
  rintro ⟨⟨query, answer⟩, he, -, hcreates⟩
  cases query with
  | resolve => exact absurd hcreates Bool.false_ne_true
  | execute => exact absurd (h _ he).symm Bool.false_ne_true
  | store => exact absurd hcreates Bool.false_ne_true

variable {t : Target} {passages before after : List Passage} {p : Passage}

/-- The table that a pass goes by is empty if nobody told one, and otherwise that of a node
that knows no other. -/
theorem tableIn_of_lonely (hlonely : Lonely (logOf passages))
    (hsplit : passages = before ++ p :: after) (hunformed : ¬ Site.Formed (logOf before)) :
    (p.Told → (tableIn p.log).IsLone) ∧ (¬ p.Told → tableIn p.log = .empty) := by
  constructor
  · rintro ⟨e, he, htold⟩
    have hsome : (p.log.findSome? toldTable?).isSome = true :=
      List.findSome?_isSome_iff.mpr ⟨e, he, Option.isSome_iff_ne_none.mpr htold⟩
    obtain ⟨text, htext⟩ := Option.isSome_iff_exists.mp hsome
    obtain ⟨first, e, rest, hlog, hfirst, -⟩ := List.findSome?_eq_some_iff.mp htext
    rw [tableIn, htext]
    have hquiet := p.not_isCommand_of_told hlog (by rw [hfirst]; exact Option.some_ne_none _)
    have hall : logOf passages = (logOf before ++ first) ++ e :: (rest ++ logOf after) := by
      rw [logOf, hsplit, List.flatMap_append, List.flatMap_cons, hlog]
      simp only [logOf, List.append_assoc, List.cons_append]
    refine hlonely _ e _ text hall (fun hformed => ?_) hfirst
    rcases formed_append.mp hformed with hformed | hformed
    · exact hunformed hformed
    · exact not_formed_of_not_isCommand hquiet hformed
  · intro hsilent
    have hnone : p.log.findSome? toldTable? = none := by
      refine List.findSome?_eq_none_iff.mpr fun e he => ?_
      by_contra htold
      exact hsilent ⟨e, he, htold⟩
    rw [tableIn, hnone]
    rfl

/-- As long as no command has formed a cluster of two leaders or more, every pass tries to
form it, whatever fails.  With one leader that only happens in passes in which it does not
tell its table; in the others its own row passes for the formed cluster, and followers are
attached to it if any are wanted. -/
theorem step_while_unformed (hleaders : 1 ≤ t.leaders)
    (hpasses : ∀ p ∈ passages, p.target = t ∧ p.ready.meet t = true)
    (hlonely : Lonely (logOf passages)) (hsplit : passages = before ++ p :: after)
    (hunformed : ¬ Site.Formed (logOf before)) :
    (p.report.step = .bootstrap ↔ 2 ≤ t.leaders ∨ ¬ p.Told) ∧
      (p.report.step = .attachFollowers ↔ t.leaders = 1 ∧ 0 < t.followers ∧ p.Told) ∧
      (p.report.step = .none ↔ t.leaders = 1 ∧ t.followers = 0 ∧ p.Told) ∧
      p.report.step ≠ .failover ∧ p.report.outcome = p.report.step.outcome := by
  obtain ⟨rfl, hmeet⟩ := hpasses p (by simp [hsplit])
  obtain ⟨result, hreport⟩ := Passage.report_of_meet hmeet
  obtain ⟨htold, hsilent⟩ := tableIn_of_lonely hlonely hsplit hunformed
  have hstep : p.report.step =
      decideStep p.target.leaders p.target.followers (tableIn p.log) := by
    rw [hreport]
    rfl
  have houtcome : p.report.outcome = p.report.step.outcome := by
    rw [hreport]
    rfl
  rw [houtcome, hstep]
  by_cases hp : p.Told
  · rw [(htold hp).decideStep_eq hleaders]
    grind
  · rw [hsilent hp, Snapshot.decideStep_empty hleaders]
    grind

theorem lonely_of_told {log : Log}
    (h : ∀ text ∈ log.filterMap toldTable?, (Snapshot.ofText text).IsLone) : Lonely log := by
  rintro before e after text rfl - htold
  exact h text (List.mem_filterMap.mpr ⟨e, by simp, htold⟩)

def loneRow : String := "a1 10.0.0.1:6379@16379 myself,master - 0 0 0 connected\n"

/-- Nodes that know no others, where the next so many commands fail. -/
def reluctant : Responder interface Nat
  | .resolve _, n => (.ok (.v4 ⟨10, 0, 0, 1⟩), n)
  | .execute pod _, n + 1 => (.error (.command pod "no route to host" "" ""), n)
  | .execute _ _, 0 => (.ok ⟨"", ""⟩, 0)
  | .store (.nodes _), n => (.ok loneRow, n)
  | .store (.connect _ _), n | .store (.reset _), n | .store (.flush _), n
  | .store (.close _), n => (.ok (), n)

/-- A pass over so many leaders, where the next so many commands fail. -/
def overLeaders (leaders : Nat) (failing : Nat) : Passage :=
  .answeredBy reluctant failing ⟨"redis-cli", 6379⟩ ⟨"cache", "prod", leaders, 0⟩
    ⟨Int32.ofNat leaders, 0⟩

/-- What one pass fails to form the next one forms. -/
theorem step_while_unformed_twoLeaders :
    let failing := overLeaders 2 1
    let working := overLeaders 2 0
    Lonely (logOf [failing, working]) ∧ ¬ Site.Formed (logOf [failing]) ∧
      failing.report.step = .bootstrap ∧ working.report.step = .bootstrap ∧
        Site.Formed working.log := by
  intro failing working
  have hlonely : Lonely (logOf [failing, working]) := lonely_of_told (by decide +kernel)
  have hunformed : ¬ Site.Formed (logOf [failing]) := by
    unfold Site.Formed
    decide +kernel
  have hpasses : ∀ p ∈ [failing, working],
      p.target = ⟨"cache", "prod", 2, 0⟩ ∧ p.ready.meet ⟨"cache", "prod", 2, 0⟩ = true :=
    List.forall_mem_cons.mpr ⟨⟨rfl, by decide⟩, List.forall_mem_singleton.mpr ⟨rfl, by decide⟩⟩
  have hnone : ¬ Site.Formed (logOf []) := by
    unfold Site.Formed
    decide
  have hfirst := step_while_unformed (by decide) hpasses hlonely
    (show [failing, working] = [] ++ failing :: [working] from rfl) hnone
  have hsecond := step_while_unformed (by decide) hpasses hlonely
    (show [failing, working] = [failing] ++ working :: [] from rfl) hunformed
  have hformed : Site.Formed working.log := by
    unfold Site.Formed
    decide +kernel
  exact ⟨hlonely, hunformed, hfirst.1.mpr (.inl (by decide)), hsecond.1.mpr (.inl (by decide)),
    hformed⟩

/-- A leader on its own is taken for a cluster that no command has formed. -/
theorem converged_overLeaders_one :
    let p := overLeaders 1 0
    p.target.leaders = 1 ∧ p.ready.meet p.target = true ∧ Lonely p.log ∧
      ¬ Site.Formed p.log ∧ p.report.step = .none ∧ p.report.outcome = .converged := by
  intro p
  refine ⟨rfl, by decide, lonely_of_told (by decide +kernel), ?_, by decide +kernel,
    by decide +kernel⟩
  unfold Site.Formed
  decide +kernel

end Node
end RedisKeeper
