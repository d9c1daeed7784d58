import RedisKeeper.Node.Pass
import RedisKeeper.Proofs.Program.Yields

/-
What each part of a pass asks of the nodes, and in which order.

Every part has a relation between a log and a result that lists all that can
happen, failures included, and a theorem that each of its runs is one of them
(`inspected_of_yields` to `passed_of_yields`).
-/
namespace RedisKeeper
namespace Node

abbrev Log := List (Exchange interface)

abbrev resolved (pod : PodName) (answer : Except Error Address) : Exchange interface :=
  ⟨.resolve pod, answer⟩

abbrev executed (pod : PodName) (argv : List String) (answer : Except Error Output) :
    Exchange interface :=
  ⟨.execute pod argv, answer⟩

abbrev called (call : Store.Call) (answer : call.Answer) : Exchange interface :=
  ⟨.store call, answer⟩

variable {tools : Tools} {tcp : UInt16} {t : Target} {table : Snapshot} {log : Log}

/-! ## Reading the table -/

inductive Inspected (tcp : UInt16) (pod : PodName) : Log → Except Error Snapshot → Prop
  | unresolved (e : Error) : Inspected tcp pod [resolved pod (.error e)] (.error e)
  | unconnected (a : Address) (e : Store.Error) :
    Inspected tcp pod
      [resolved pod (.ok a), called (.connect a.host tcp) (.error e)] (.error (.store e))
  | unread (a : Address) (e : Store.Error) (closing : Except Store.Error Unit) :
    Inspected tcp pod
      [resolved pod (.ok a), called (.connect a.host tcp) (.ok ()),
        called (.nodes a.host) (.error e), called (.close a.host) closing]
      (.error (.store e))
  | read (a : Address) (text : String) (closing : Except Store.Error Unit) :
    Inspected tcp pod
      [resolved pod (.ok a), called (.connect a.host tcp) (.ok ()),
        called (.nodes a.host) (.ok text), called (.close a.host) closing]
      (.ok (.ofText text))

theorem inspected_of_yields {pod : PodName} {result : Except Error Snapshot}
    (h : (inspect tcp pod).Yields log result) : Inspected tcp pod log result := by
  obtain ⟨address, rest, rfl, h⟩ := h
  cases address with
  | error e =>
    obtain ⟨rfl, rfl⟩ := h
    exact .unresolved e
  | ok a =>
    obtain ⟨opening, rest, rfl, h⟩ := h
    cases opening with
    | error e =>
      obtain ⟨rfl, rfl⟩ := h
      exact .unconnected a e
    | ok _ =>
      obtain ⟨answer, rest, rfl, closing, last, rfl, h⟩ := h
      cases answer with
      | error e =>
        obtain ⟨rfl, rfl⟩ := h
        exact .unread a e closing
      | ok text =>
        obtain ⟨rfl, rfl⟩ := h
        exact .read a text closing

inductive Observed (tcp : UInt16) : List PodName → Log → Snapshot → Prop
  | nobody : Observed tcp [] [] .empty
  | answered {pod : PodName} {pods : List PodName} {log : Log} {table : Snapshot} :
    Inspected tcp pod log (.ok table) → Observed tcp (pod :: pods) log table
  | silent {pod : PodName} {pods : List PodName} {first rest : Log} {e : Error}
      {table : Snapshot} :
    Inspected tcp pod first (.error e) → Observed tcp pods rest table →
      Observed tcp (pod :: pods) (first ++ rest) table

theorem observed_of_yields {pods : List PodName} (h : (firstTable tcp pods).Yields log table) :
    Observed tcp pods log table := by
  induction pods generalizing log with
  | nil =>
    obtain ⟨rfl, rfl⟩ := h
    exact .nobody
  | cons pod pods ih =>
    obtain ⟨first, rest, result, rfl, hfirst, hrest⟩ := Program.yields_bind.mp h
    cases result with
    | error e => exact .silent (inspected_of_yields hfirst) (ih hrest)
    | ok answer =>
      obtain ⟨rfl, rfl⟩ := hrest
      rw [List.append_nil]
      exact .answered (inspected_of_yields hfirst)

/-! ## Forming a cluster -/

inductive Addressed (tcp : UInt16) : List PodName → Log → Except Error (List String) → Prop
  | nobody : Addressed tcp [] [] (.ok [])
  | unresolved (pod : PodName) (pods : List PodName) (e : Error) :
    Addressed tcp (pod :: pods) [resolved pod (.error e)] (.error e)
  | resolved (pod : PodName) (a : Address) {pods : List PodName} {log : Log}
      {result : Except Error (List String)} :
    Addressed tcp pods log result →
      Addressed tcp (pod :: pods) (resolved pod (.ok a) :: log)
        (result.map (a.endpoint tcp :: ·))

theorem addressed_of_yields {pods : List PodName} {result : Except Error (List String)}
    (h : (Program.eachOk (endpoint tcp) pods).Yields log result) :
    Addressed tcp pods log result := by
  induction pods generalizing log result with
  | nil =>
    obtain ⟨rfl, rfl⟩ := h
    exact .nobody
  | cons pod pods ih =>
    rcases Program.yields_eachOk_cons.mp h with
      ⟨e, hpod, rfl⟩ | ⟨first, second, b, more, rfl, rfl, hpod, hpods⟩
    · obtain ⟨address, rest, rfl, rfl, heq⟩ := hpod
      cases address with
      | error e' =>
        obtain rfl : e = e' := Except.error.inj heq
        exact .unresolved pod pods e
      | ok a => exact absurd heq (by simp [Except.map])
    · obtain ⟨address, rest, rfl, rfl, heq⟩ := hpod
      cases address with
      | error e => exact absurd heq (by simp [Except.map])
      | ok a =>
        obtain rfl : b = a.endpoint tcp := Except.ok.inj heq
        exact .resolved pod a (ih hpods)

inductive Bootstrapped (tools : Tools) (t : Target) : Log → Except Error Output → Prop
  | unaddressed {log : Log} {e : Error} :
    Addressed tools.tcp ((List.range t.leaders).map (t.pod .leader)) log (.error e) →
      Bootstrapped tools t log (.error e)
  | executed {log : Log} {endpoints : List String} (result : Except Error Output) :
    Addressed tools.tcp ((List.range t.leaders).map (t.pod .leader)) log (.ok endpoints) →
      Bootstrapped tools t
        (log ++ [executed t.firstLeader (formCommand tools.program endpoints) result]) result

theorem bootstrapped_of_yields {result : Except Error Output}
    (h : (bootstrap tools t).Yields log result) : Bootstrapped tools t log result := by
  obtain ⟨first, rest, endpoints, rfl, hfirst, hrest⟩ := Program.yields_bind.mp h
  have hlog := addressed_of_yields hfirst
  cases endpoints with
  | error e =>
    obtain ⟨rfl, rfl⟩ := hrest
    rw [List.append_nil]
    exact .unaddressed hlog
  | ok endpoints =>
    obtain ⟨answer, last, rfl, rfl, rfl⟩ := hrest
    exact .executed result hlog

/-- What happens to the follower with an index. -/
inductive Attached (tools : Tools) (t : Target) (table : Snapshot) (index : Nat) :
    Log → Attachment → Prop
  | unpaired : t.leaders ≤ index → Attached tools t table index [] .unpaired
  | unresolved (e : Error) : index < t.leaders →
    Attached tools t table index [resolved (t.pod .follower index) (.error e)] .failed
  | skipped (a : Address) : index < t.leaders → table.lists a.host = true →
    Attached tools t table index [resolved (t.pod .follower index) (.ok a)] .skipped
  | leaderless (a : Address) (e : Error) : index < t.leaders → table.lists a.host = false →
    Attached tools t table index
      [resolved (t.pod .follower index) (.ok a), resolved (t.pod .leader index) (.error e)]
      .failed
  | refused (a b : Address) (e : Error) : index < t.leaders → table.lists a.host = false →
    Attached tools t table index
      [resolved (t.pod .follower index) (.ok a), resolved (t.pod .leader index) (.ok b),
        executed t.firstLeader
          (joinCommand tools.program (a.endpoint tools.tcp) (b.endpoint tools.tcp)) (.error e)]
      .failed
  | attached (a b : Address) (out : Output) : index < t.leaders →
      table.lists a.host = false →
    Attached tools t table index
      [resolved (t.pod .follower index) (.ok a), resolved (t.pod .leader index) (.ok b),
        executed t.firstLeader
          (joinCommand tools.program (a.endpoint tools.tcp) (b.endpoint tools.tcp)) (.ok out)]
      (.attached (t.pod .follower index).name)

theorem attached_of_yields {index : Nat} {result : Attachment}
    (h : (attach tools t table index).Yields log result) :
    Attached tools t table index log result := by
  rw [attach] at h
  split at h
  · rename_i hindex
    obtain ⟨rfl, rfl⟩ := h
    exact .unpaired hindex
  · rename_i hindex
    have hlt : index < t.leaders := Nat.lt_of_not_le hindex
    obtain ⟨follower, rest, rfl, h⟩ := h
    cases follower with
    | error e =>
      obtain ⟨rfl, rfl⟩ := h
      exact .unresolved e hlt
    | ok a =>
      simp only [Program.bind] at h
      split at h
      · rename_i hlists
        obtain ⟨rfl, rfl⟩ := h
        exact .skipped a hlt hlists
      · rename_i hlists
        have hnot : table.lists a.host = false := Bool.eq_false_iff.mpr hlists
        obtain ⟨leader, rest, rfl, h⟩ := h
        cases leader with
        | error e =>
          obtain ⟨rfl, rfl⟩ := h
          exact .leaderless a e hlt hnot
        | ok b =>
          obtain ⟨answer, rest, rfl, h⟩ := h
          cases answer with
          | error e =>
            obtain ⟨rfl, rfl⟩ := h
            exact .refused a b e hlt hnot
          | ok out =>
            obtain ⟨rfl, rfl⟩ := h
            exact .attached a b out hlt hnot

/-! ## What is asked without a session -/

/-- Whether a question goes to a node itself. -/
def Query.isCall : Query → Bool
  | .store _ => true
  | _ => false

/-- Whether a program calls no nodes. -/
abbrev Offline {α : Type} (p : Work α) : Prop := p.Only fun query : Query => query.isCall = false

theorem offline_endpoint (tcp : UInt16) (pod : PodName) : Offline (endpoint tcp pod) :=
  ⟨rfl, fun _ => trivial⟩

theorem offline_bootstrap (tools : Tools) (t : Target) : Offline (bootstrap tools t) := by
  refine (Program.Only.eachOk (offline_endpoint tools.tcp) _).bind fun endpoints => ?_
  cases endpoints with
  | error e => exact trivial
  | ok endpoints => exact ⟨rfl, fun _ => trivial⟩

theorem offline_attach (tools : Tools) (t : Target) (table : Snapshot) (index : Nat) :
    Offline (attach tools t table index) := by
  rw [attach]
  split
  · exact trivial
  · refine ⟨rfl, fun follower => ?_⟩
    cases follower with
    | error e => exact trivial
    | ok address =>
      simp only [Program.bind]
      split
      · exact trivial
      · refine ⟨rfl, fun leader => ?_⟩
        cases leader with
        | error e => exact trivial
        | ok leader =>
          refine ⟨rfl, fun joining => ?_⟩
          cases joining with
          | error e => exact trivial
          | ok out => exact trivial

/-- Only a failover calls nodes. -/
theorem offline_take (tools : Tools) (t : Target) (table : Snapshot) {step : Step}
    (hstep : step ≠ .failover) : Offline (take tools t table step) := by
  cases step with
  | none => exact trivial
  | bootstrap =>
    refine (offline_bootstrap tools t).bind fun outcome => ?_
    cases outcome with
    | error e => exact trivial
    | ok out => exact trivial
  | attachFollowers =>
    have hall : Offline (attachAll tools t table) :=
      (Program.Only.each (offline_attach tools t table) _).bind fun _ => trivial
    exact hall.bind fun _ => trivial
  | failover => exact absurd rfl hstep

/-! ## Resetting nodes -/

/-- What happens to the node of a pod that is to be reset. -/
inductive WasReset (tcp : UInt16) (pod : PodName) : Log → Resetting → Prop
  | unresolved (e : Error) : WasReset tcp pod [resolved pod (.error e)] .failed
  | unconnected (a : Address) (e : Store.Error) :
    WasReset tcp pod [resolved pod (.ok a), called (.connect a.host tcp) (.error e)] .failed
  | reset (a : Address) (closing : Except Store.Error Unit) :
    WasReset tcp pod
      [resolved pod (.ok a), called (.connect a.host tcp) (.ok ()),
        called (.reset a.host) (.ok ()), called (.close a.host) closing] .reset
  | flushed (a : Address) (e : Store.Error) (closing : Except Store.Error Unit) :
    WasReset tcp pod
      [resolved pod (.ok a), called (.connect a.host tcp) (.ok ()),
        called (.reset a.host) (.error e), called (.flush a.host) (.ok ()),
        called (.close a.host) closing] .flushed
  | unflushed (a : Address) (e e' : Store.Error) (closing : Except Store.Error Unit) :
    WasReset tcp pod
      [resolved pod (.ok a), called (.connect a.host tcp) (.ok ()),
        called (.reset a.host) (.error e), called (.flush a.host) (.error e'),
        called (.close a.host) closing] .failed

theorem wasReset_of_yields {pod : PodName} {result : Resetting}
    (h : (resetNode tcp pod).Yields log result) : WasReset tcp pod log result := by
  obtain ⟨address, rest, rfl, h⟩ := h
  cases address with
  | error e =>
    obtain ⟨rfl, rfl⟩ := h
    exact .unresolved e
  | ok a =>
    obtain ⟨opening, rest, rfl, h⟩ := h
    cases opening with
    | error e =>
      obtain ⟨rfl, rfl⟩ := h
      exact .unconnected a e
    | ok _ =>
      obtain ⟨resetting, rest, rfl, h⟩ := h
      cases resetting with
      | ok _ =>
        obtain ⟨closing, last, rfl, rfl, rfl⟩ := h
        exact .reset a closing
      | error e =>
        obtain ⟨flushing, rest, rfl, h⟩ := h
        cases flushing with
        | ok _ =>
          obtain ⟨closing, last, rfl, rfl, rfl⟩ := h
          exact .flushed a e closing
        | error e' =>
          obtain ⟨closing, last, rfl, rfl, rfl⟩ := h
          exact .unflushed a e e' closing

/-! ## The pass as a whole -/

/-- What happens when a step is taken, and what is told about it. -/
inductive Took (tools : Tools) (t : Target) (table : Snapshot) :
    Step → Log → Bool × String → Prop
  | nothing : Took tools t table .none [] (true, s!"{table.size} nodes in cluster")
  | formed {log : Log} {out : Output} : Bootstrapped tools t log (.ok out) →
    Took tools t table .bootstrap log (true, s!"Created cluster from {t.leaders} leaders")
  | unformed {log : Log} {e : Error} : Bootstrapped tools t log (.error e) →
    Took tools t table .bootstrap log (false, s!"Cluster creation failed: {e.message}")
  | attached {log : Log} {results : List Attachment} :
    (Program.each (attach tools t table) (List.range t.followers)).Yields log results →
      Took tools t table .attachFollowers log
        ((AttachTally.of results).failed == 0, (AttachTally.of results).message)
  | reset {log : Log} {results : List Resetting} :
    (Program.each (resetNode tools.tcp) (allPods t)).Yields log results →
      Took tools t table .failover log
        ((ResetTally.of results).failed == 0, (ResetTally.of results).message)

theorem took_of_yields {step : Step} {result : Bool × String}
    (h : (take tools t table step).Yields log result) : Took tools t table step log result := by
  cases step with
  | none =>
    obtain ⟨rfl, rfl⟩ := h
    exact .nothing
  | bootstrap =>
    obtain ⟨first, rest, outcome, rfl, hfirst, hrest⟩ := Program.yields_bind.mp h
    have hlog := bootstrapped_of_yields hfirst
    cases outcome with
    | error e =>
      obtain ⟨rfl, rfl⟩ := hrest
      rw [List.append_nil]
      exact .unformed hlog
    | ok out =>
      obtain ⟨rfl, rfl⟩ := hrest
      rw [List.append_nil]
      exact .formed hlog
  | attachFollowers =>
    obtain ⟨first, rest, tally, rfl, hfirst, rfl, rfl⟩ := Program.yields_bind.mp h
    obtain ⟨log, last, results, rfl, hlog, rfl, rfl⟩ := Program.yields_bind.mp hfirst
    rw [List.append_nil, List.append_nil]
    exact .attached hlog
  | failover =>
    obtain ⟨first, rest, tally, rfl, hfirst, rfl, rfl⟩ := Program.yields_bind.mp h
    obtain ⟨log, last, results, rfl, hlog, rfl, rfl⟩ := Program.yields_bind.mp hfirst
    rw [List.append_nil, List.append_nil]
    exact .reset hlog

/-- The report of a pass that read a table and took the step that it calls for. -/
def reportOf (t : Target) (table : Snapshot) (result : Bool × String) : Report :=
  let step := decideStep t.leaders t.followers table
  { outcome := step.outcome
    step
    clusterNodes := some table.size
    failedNodes := some table.countFailing
    succeeded := result.1
    message := result.2 }

inductive Passed (tools : Tools) (t : Target) (ready : ReadyCounts) : Log → Report → Prop
  | waiting : ready.meet t = false → Passed tools t ready [] (notReady t ready)
  | looked {seen acted : Log} {table : Snapshot} {result : Bool × String} :
    ready.meet t = true → Observed tools.tcp (witnesses t) seen table →
      Took tools t table (decideStep t.leaders t.followers table) acted result →
        Passed tools t ready (seen ++ acted) (reportOf t table result)

theorem passed_of_yields {ready : ReadyCounts} {report : Report}
    (h : (pass tools t ready).Yields log report) : Passed tools t ready log report := by
  rw [pass] at h
  split at h
  · rename_i hready
    obtain ⟨seen, rest, table, rfl, hseen, hrest⟩ := Program.yields_bind.mp h
    obtain ⟨acted, last, result, rfl, hacted, rfl, rfl⟩ := Program.yields_bind.mp hrest
    rw [List.append_nil]
    exact .looked hready (observed_of_yields hseen) (took_of_yields hacted)
  · rename_i hready
    obtain ⟨rfl, rfl⟩ := h
    exact .waiting (Bool.eq_false_iff.mpr hready)

end Node
end RedisKeeper
