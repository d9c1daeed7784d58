import RedisKeeper.Proofs.Node.Fallback
import RedisKeeper.Proofs.Node.Resetting
import RedisKeeper.Proofs.Node.RowOrder

/-
Sessions with nodes.

A pass visits nodes one after the other, first to read the table and then, if it resets
nodes, all of them.  A visit asks for an address.  At that address it either fails to
connect or has one session, which it closes last (`Visit.calls`), and all that a pass asks
of nodes is asked in its visits (`visited_of_passed`).  How closing a session is answered
makes no difference to a pass (`pass_matches_closing`).
-/
namespace RedisKeeper
namespace Node

variable {tools : Tools} {tcp : UInt16} {t : Target} {ready : ReadyCounts} {table : Snapshot}
  {log : Log}

/-! ## Which nodes a pass visits -/

/-- The table is read from the first pods there are, up to one that tells it. -/
theorem visits_of_observed {pods : List PodName} (h : Observed tcp pods log table) :
    ∃ visits : List Visit, visits.map Visit.pod <+: pods ∧
      log = visits.flatMap (Visit.log tcp) := by
  obtain ⟨visits, hlog, -, ⟨k, text, -, hpods, -⟩ | ⟨hpods, -⟩⟩ := fallback_of_observed h
  · exact ⟨visits, hpods ▸ List.take_prefix _ _, hlog⟩
  · exact ⟨visits, hpods ▸ List.prefix_rfl, hlog⟩

theorem Asks.isCall_eq_false {step : Step} (hstep : step ≠ .failover) {e : Exchange interface}
    (h : Asks tools t step e) : e.query.isCall = false := by
  cases h with
  | resolve => rfl
  | form => rfl
  | join => rfl
  | call => exact absurd rfl hstep

/-- The visits of a pass, and what it asks after them, which is nothing of nodes. -/
structure Visited (tools : Tools) (t : Target) (visits : List Visit) (rest log : Log)
    (report : Report) : Prop where
  log_eq : log = visits.flatMap (Visit.log tools.tcp) ++ rest
  rest_offline : ∀ e ∈ rest, e.query.isCall = false
  /-- Leaders are visited in order to read the table, and then all pods in a failover. -/
  pods : ∃ asked, asked <+: witnesses t ∧
    visits.map Visit.pod = asked ++ if report.step = .failover then allPods t else []

theorem visited_of_passed {report : Report} (h : Passed tools t ready log report) :
    ∃ visits rest, Visited tools t visits rest log report := by
  cases h with
  | waiting => exact ⟨[], [], rfl, List.forall_mem_nil _, [], List.nil_prefix, rfl⟩
  | @looked seen acted table result _ hseen hacted =>
    obtain ⟨asked, hasked, rfl⟩ := visits_of_observed hseen
    -- A failover consists of visits, and no other step calls a node.
    by_cases hstep : decideStep t.leaders t.followers table = .failover
    · rw [hstep] at hacted
      cases hacted with
      | reset hlog =>
        obtain ⟨visits, hpods, rfl, -⟩ := resettings_of_each hlog
        refine ⟨asked ++ visits, [], ?_, List.forall_mem_nil _, _, hasked, ?_⟩
        · rw [List.flatMap_append, List.append_nil]
        · rw [List.map_append, hpods, reportOf, if_pos hstep]
    · refine ⟨asked, acted, rfl, fun e he => ?_, _, hasked, ?_⟩
      · exact (asks_of_took hacted e he).isCall_eq_false hstep
      · rw [reportOf, if_neg hstep, List.append_nil]

theorem Visited.filter_log {visits : List Visit} {rest : Log} {report : Report}
    (h : Visited tools t visits rest log report) :
    log.filter (·.query.isCall) = visits.flatMap (Visit.calls tools.tcp) := by
  have hrest : rest.filter (·.query.isCall) = [] :=
    List.filter_eq_nil_iff.mpr fun e he => Bool.eq_false_iff.mp (h.rest_offline e he)
  rw [h.log_eq, List.filter_append, hrest, List.append_nil, List.filter_flatMap]
  simp only [Visit.filter_log]

/-! ## Answers to closing a session -/

/-- Closing a session may be answered in any way.  Nothing else may differ. -/
def SameButClosing : (query : Query) → query.Answer → query.Answer → Prop
  | .store (.close _), _, _ => True
  | _, answer, answer' => answer = answer'

theorem SameButClosing.immaterial {query : Query} {answer answer' : query.Answer}
    (h : SameButClosing query answer answer') : Immaterial query answer answer' := by
  cases query with
  | resolve => exact h
  | execute => exact h
  | store call =>
    cases call with
    | close => exact trivial
    | nodes =>
      obtain rfl := h
      cases answer with
      | error e => exact .error e
      | ok text => exact .ok (List.Perm.refl _)
    | connect => exact h
    | reset => exact h
    | flush => exact h

theorem pass_matches_closing (tools : Tools) (t : Target) (ready : ReadyCounts) :
    Program.Matches SameButClosing Eq (pass tools t ready) (pass tools t ready) :=
  (pass_matches_immaterial tools t ready).mono fun _ _ _ => SameButClosing.immaterial

/-! ## Sessions of a pass -/

/-- Whatever is answered, the calls of a pass to nodes are those of its visits, one visit
after the other.  In two worlds that differ only in how closing a session is answered, a
pass is reported alike and asks the same. -/
theorem pass_sessions (tools : Tools) (t : Target) (ready : ReadyCounts) {σ : Type}
    (w : Responder interface σ) (s : σ) :
    let run := (pass tools t ready).runLogged w s
    (∃ visits rest, Visited tools t visits rest run.2.1 run.1 ∧
      run.2.1.filter (·.query.isCall) = visits.flatMap (Visit.calls tools.tcp)) ∧
    ∀ {τ : Type} {R : σ → τ → Prop} {w' : Responder interface τ} {s' : τ},
      Program.Alike SameButClosing R w w' → R s s' →
        let run' := (pass tools t ready).runLogged w' s'
        run.1 = run'.1 ∧ run.2.1.map (·.query) = run'.2.1.map (·.query) := by
  intro run
  have hpassed : Passed tools t ready run.2.1 run.1 :=
    passed_of_yields (Program.yields_runLogged w (pass tools t ready) s)
  obtain ⟨visits, rest, hvisited⟩ := visited_of_passed hpassed
  exact ⟨⟨visits, rest, hvisited, hvisited.filter_log⟩,
    fun hw hs => (pass_matches_closing tools t ready).runLogged hw hs⟩

/-- The world in which closing a session always fails and all else is as in another. -/
def unclosing {σ : Type} (w : Responder interface σ) : Responder interface σ
  | .store (.close host), s => (.error (.failed "closed by peer"), (w (.store (.close host)) s).2)
  | query, s => w query s

theorem alike_unclosing {σ : Type} (w : Responder interface σ) :
    Program.Alike SameButClosing Eq w (unclosing w) := by
  rintro query s _ rfl
  cases query with
  | resolve => exact ⟨rfl, rfl⟩
  | execute => exact ⟨rfl, rfl⟩
  | store call =>
    cases call with
    | close => exact ⟨trivial, rfl⟩
    | connect => exact ⟨rfl, rfl⟩
    | nodes => exact ⟨rfl, rfl⟩
    | reset => exact ⟨rfl, rfl⟩
    | flush => exact ⟨rfl, rfl⟩

/-- A failed leader, at the address of every pod, and its follower. -/
def failedLeader : String :=
  "a1 10.0.0.9:6379@16379 myself,master,fail - 0 0 1 connected 0-16383\n" ++
    "a2 10.0.0.9:6379@16379 slave a1 0 0 2 connected\n"

/-- The table is read from the leader, and both nodes are reset. -/
theorem pass_sessions_failedLeader :
    let tools : Tools := ⟨"redis-cli", 6379⟩
    let t : Target := ⟨"cache", "prod", 1, 1⟩
    let w := telling failedLeader
    let run := (pass tools t ⟨1, 1⟩).runLogged w ()
    let run' := (pass tools t ⟨1, 1⟩).runLogged (unclosing w) ()
    Program.Alike SameButClosing Eq w (unclosing w) ∧ run.1.step = .failover ∧
      (∃ visits rest, Visited tools t visits rest run.2.1 run.1 ∧
        run.2.1.filter (·.query.isCall) = visits.flatMap (Visit.calls tools.tcp)) ∧
      run.1 = run'.1 ∧ run.2.1.map (·.query) = run'.2.1.map (·.query) := by
  intro tools t w
  have halike : Program.Alike SameButClosing Eq w (unclosing w) := alike_unclosing w
  have hsessions := pass_sessions tools t ⟨1, 1⟩ w ()
  have hstep : ((pass tools t ⟨1, 1⟩).runLogged w ()).1.step = .failover := by decide +kernel
  exact ⟨halike, hstep, hsessions.1, hsessions.2 halike rfl⟩

end Node
end RedisKeeper
