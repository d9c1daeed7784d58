import RedisKeeper.Proofs.Node.Log

/-
When a pass may form a cluster, reset nodes or discard their data.

`pass_safe` holds of every behaviour of the nodes.  The table that settles what a
pass may do is `tableIn` of what was asked before, so the conditions are about
the table that was read in the same pass and nothing else.
-/
namespace RedisKeeper
namespace Node

/-- Whether a call takes a node out of its cluster or removes its data. -/
def Query.discards : Query → Bool
  | .store (.reset _) | .store (.flush _) => true
  | _ => false

def Query.isCommand : Query → Bool
  | .execute _ _ => true
  | _ => false

def toldTable? : Exchange interface → Option String
  | ⟨.store (.nodes _), .ok text⟩ => some text
  | _ => none

/-- The table that was read, which is the first one that a node told, and empty
while none has. -/
def tableIn (log : Log) : Snapshot := ((log.findSome? toldTable?).map .ofText).getD .empty

variable {tools : Tools} {tcp : UInt16} {t : Target} {ready : ReadyCounts} {table : Snapshot}
  {log : Log}

/-! ## Reading the table changes nothing -/

/-- What can be asked to read the table of the given pods. -/
inductive Reads (pods : List PodName) : Exchange interface → Prop
  | resolve {pod : PodName} (answer : Except Error Address) : pod ∈ pods →
    Reads pods (resolved pod answer)
  | call {call : Store.Call} (answer : call.Answer) : Query.discards (.store call) = false →
    Reads pods (called call answer)

theorem Reads.mono {pods more : List PodName} (hsub : pods ⊆ more) {e : Exchange interface}
    (h : Reads pods e) : Reads more e := by
  cases h with
  | resolve answer hpod => exact .resolve answer (hsub hpod)
  | call answer hcall => exact .call answer hcall

theorem reads_of_inspected {pod : PodName} {result : Except Error Snapshot}
    (h : Inspected tcp pod log result) : ∀ e ∈ log, Reads [pod] e := by
  have hresolve : ∀ answer, Reads [pod] (resolved pod answer) :=
    fun answer => .resolve answer (List.mem_singleton_self pod)
  cases h with
  | unresolved =>
    simp only [List.forall_mem_singleton]
    exact hresolve _
  | unconnected =>
    simp only [List.forall_mem_cons]
    exact ⟨hresolve _, .call _ rfl, List.forall_mem_nil _⟩
  | unread =>
    simp only [List.forall_mem_cons]
    exact ⟨hresolve _, .call _ rfl, .call _ rfl, .call _ rfl, List.forall_mem_nil _⟩
  | read =>
    simp only [List.forall_mem_cons]
    exact ⟨hresolve _, .call _ rfl, .call _ rfl, .call _ rfl, List.forall_mem_nil _⟩

theorem reads_of_observed {pods : List PodName} (h : Observed tcp pods log table) :
    ∀ e ∈ log, Reads pods e := by
  induction h with
  | nobody => exact List.forall_mem_nil _
  | answered hlog =>
    intro e he
    exact (reads_of_inspected hlog e he).mono (by simp)
  | silent hfirst _ ih =>
    rw [List.forall_mem_append]
    constructor
    · intro e he
      exact (reads_of_inspected hfirst e he).mono (by simp)
    · intro e he
      exact (ih e he).mono (List.subset_cons_self _ _)

theorem toldTable?_inspected {pod : PodName} {result : Except Error Snapshot}
    (h : Inspected tcp pod log result) :
    (log.findSome? toldTable?).map Snapshot.ofText = result.toOption := by
  cases h <;> rfl

/-- What is asked after the table was read does not change what was read. -/
theorem tableIn_observed_append {pods : List PodName} (h : Observed tcp pods log table)
    {more : Log} (hmore : ∀ e ∈ more, toldTable? e = none) : tableIn (log ++ more) = table := by
  induction h with
  | nobody =>
    rw [List.nil_append, tableIn, List.findSome?_eq_none_iff.mpr hmore]
    rfl
  | answered hlog =>
    obtain ⟨text, htext, rfl⟩ := Option.map_eq_some_iff.mp (toldTable?_inspected hlog)
    rw [tableIn, List.findSome?_append, htext]
    rfl
  | silent hfirst _ ih =>
    have hnone := Option.map_eq_none_iff.mp (toldTable?_inspected hfirst)
    rw [List.append_assoc, tableIn, List.findSome?_append, hnone, Option.none_or]
    exact ih

/-! ## What a step asks -/

/-- What can be asked while a step is taken. -/
inductive Asks (tools : Tools) (t : Target) : Step → Exchange interface → Prop
  | resolve (step : Step) (role : Role) {index : Nat} (answer : Except Error Address) :
    index < t.replicas role → Asks tools t step (resolved (t.pod role index) answer)
  | form (endpoints : List String) (answer : Except Error Output) :
    Asks tools t .bootstrap
      (executed t.firstLeader (formCommand tools.program endpoints) answer)
  | join (follower leader : String) (answer : Except Error Output) :
    Asks tools t .attachFollowers
      (executed t.firstLeader (joinCommand tools.program follower leader) answer)
  | call {call : Store.Call} (answer : call.Answer) : (∀ host, call ≠ .nodes host) →
    Asks tools t .failover (called call answer)

theorem Asks.toldTable?_eq_none {step : Step} {e : Exchange interface}
    (h : Asks tools t step e) : toldTable? e = none := by
  cases h with
  | resolve => rfl
  | form => rfl
  | join => rfl
  | @call call answer hcall =>
    cases call with
    | nodes host => exact absurd rfl (hcall host)
    | _ => rfl

theorem Asks.step_eq_of_discards {step : Step} {e : Exchange interface}
    (h : Asks tools t step e) (he : e.query.discards = true) : step = .failover := by
  cases h with
  | resolve => exact absurd he Bool.false_ne_true
  | form => exact absurd he Bool.false_ne_true
  | join => exact absurd he Bool.false_ne_true
  | call => rfl

theorem Asks.of_executed {step : Step} {pod : PodName} {argv : List String}
    {answer : Except Error Output} (h : Asks tools t step (executed pod argv answer)) :
    pod = t.firstLeader ∧
      (step = .bootstrap ∧ argv[2]? = some "create" ∨
        step = .attachFollowers ∧ argv[2]? = some "add-node") := by
  cases h with
  | form => exact ⟨rfl, .inl ⟨rfl, rfl⟩⟩
  | join => exact ⟨rfl, .inr ⟨rfl, rfl⟩⟩

theorem Asks.of_resolved {step : Step} {pod : PodName} {answer : Except Error Address}
    (h : Asks tools t step (resolved pod answer)) :
    ∃ role index, pod = t.pod role index ∧ index < t.replicas role := by
  cases h with
  | resolve _ role _ hindex => exact ⟨role, _, rfl, hindex⟩

theorem resolves_of_addressed {pods : List PodName} {result : Except Error (List String)}
    (h : Addressed tcp pods log result) :
    ∀ e ∈ log, ∃ pod ∈ pods, ∃ answer, e = resolved pod answer := by
  induction h with
  | nobody => exact List.forall_mem_nil _
  | unresolved pod =>
    rw [List.forall_mem_singleton]
    exact ⟨pod, List.mem_cons_self, _, rfl⟩
  | resolved pod a _ ih =>
    rw [List.forall_mem_cons]
    refine ⟨⟨pod, List.mem_cons_self, _, rfl⟩, fun e he => ?_⟩
    obtain ⟨other, hother, answer, rfl⟩ := ih e he
    exact ⟨other, List.mem_cons_of_mem pod hother, answer, rfl⟩

theorem asks_of_addressed {result : Except Error (List String)}
    (h : Addressed tcp ((List.range t.leaders).map (t.pod .leader)) log result) :
    ∀ e ∈ log, Asks tools t .bootstrap e := by
  intro e he
  obtain ⟨pod, hpod, answer, rfl⟩ := resolves_of_addressed h e he
  obtain ⟨index, hindex, rfl⟩ := List.mem_map.mp hpod
  exact .resolve .bootstrap .leader answer (List.mem_range.mp hindex)

theorem asks_of_bootstrapped {result : Except Error Output}
    (h : Bootstrapped tools t log result) : ∀ e ∈ log, Asks tools t .bootstrap e := by
  cases h with
  | unaddressed hlog => exact asks_of_addressed hlog
  | executed result hlog =>
    rw [List.forall_mem_append, List.forall_mem_singleton]
    exact ⟨asks_of_addressed hlog, .form _ result⟩

theorem asks_of_attached {index : Nat} {result : Attachment} (hf : index < t.followers)
    (h : Attached tools t table index log result) :
    ∀ e ∈ log, Asks tools t .attachFollowers e := by
  cases h with
  | unpaired => exact List.forall_mem_nil _
  | unresolved =>
    rw [List.forall_mem_singleton]
    exact .resolve _ .follower _ hf
  | skipped =>
    rw [List.forall_mem_singleton]
    exact .resolve _ .follower _ hf
  | leaderless a e hl =>
    simp only [List.forall_mem_cons]
    exact ⟨.resolve _ .follower _ hf, .resolve _ .leader _ hl, List.forall_mem_nil _⟩
  | refused a b e hl =>
    simp only [List.forall_mem_cons]
    exact ⟨.resolve _ .follower _ hf, .resolve _ .leader _ hl, .join _ _ _, List.forall_mem_nil _⟩
  | attached a b out hl =>
    simp only [List.forall_mem_cons]
    exact ⟨.resolve _ .follower _ hf, .resolve _ .leader _ hl, .join _ _ _, List.forall_mem_nil _⟩

theorem asks_of_wasReset {role : Role} {index : Nat} (hindex : index < t.replicas role)
    {result : Resetting} (h : WasReset tcp (t.pod role index) log result) :
    ∀ e ∈ log, Asks tools t .failover e := by
  cases h with
  | unresolved =>
    rw [List.forall_mem_singleton]
    exact .resolve _ role _ hindex
  | unconnected =>
    simp only [List.forall_mem_cons]
    exact ⟨.resolve _ role _ hindex, .call _ nofun, List.forall_mem_nil _⟩
  | reset =>
    simp only [List.forall_mem_cons]
    exact ⟨.resolve _ role _ hindex, .call _ nofun, .call _ nofun, .call _ nofun,
      List.forall_mem_nil _⟩
  | flushed =>
    simp only [List.forall_mem_cons]
    exact ⟨.resolve _ role _ hindex, .call _ nofun, .call _ nofun, .call _ nofun,
      .call _ nofun, List.forall_mem_nil _⟩
  | unflushed =>
    simp only [List.forall_mem_cons]
    exact ⟨.resolve _ role _ hindex, .call _ nofun, .call _ nofun, .call _ nofun,
      .call _ nofun, List.forall_mem_nil _⟩

theorem mem_allPods {pod : PodName} :
    pod ∈ allPods t ↔ ∃ role index, index < t.replicas role ∧ pod = t.pod role index := by
  simp only [allPods, List.mem_flatMap, List.mem_map, List.mem_range]
  constructor
  · rintro ⟨role, -, index, hindex, rfl⟩
    exact ⟨role, index, hindex, rfl⟩
  · rintro ⟨role, index, hindex, rfl⟩
    exact ⟨role, by cases role <;> simp [Role.all], index, hindex, rfl⟩

theorem asks_of_took {step : Step} {result : Bool × String}
    (h : Took tools t table step log result) : ∀ e ∈ log, Asks tools t step e := by
  cases h with
  | nothing => exact List.forall_mem_nil _
  | formed hlog => exact asks_of_bootstrapped hlog
  | unformed hlog => exact asks_of_bootstrapped hlog
  | attached hlog =>
    intro e he
    obtain ⟨index, hindex, part, result, hpart, hmem⟩ :=
      Program.exists_of_yields_each hlog he
    exact asks_of_attached (List.mem_range.mp hindex) (attached_of_yields hpart) e hmem
  | reset hlog =>
    intro e he
    obtain ⟨pod, hpod, part, result, hpart, hmem⟩ := Program.exists_of_yields_each hlog he
    obtain ⟨role, index, hindex, rfl⟩ := mem_allPods.mp hpod
    exact asks_of_wasReset hindex (wasReset_of_yields hpart) e hmem

/-! ## The pass as a whole -/

theorem eq_nil_of_passed {report : Report} (h : Passed tools t ready log report)
    (hready : ready.meet t ≠ true) : log = [] := by
  cases h with
  | waiting => rfl
  | looked hmeet => exact absurd hmeet hready

/-- Calls that change nodes and commands are those of one step, the one that the
table read before them calls for. -/
theorem asks_of_passed {report : Report} (h : Passed tools t ready log report) :
    ∃ table, ∀ before e after, log = before ++ e :: after →
      (e.query.discards = true ∨ e.query.isCommand = true) →
        ready.meet t = true ∧ tableIn before = table ∧
          Asks tools t (decideStep t.leaders t.followers table) e := by
  cases h with
  | waiting => exact ⟨.empty, fun before e after hlog => absurd hlog (by simp)⟩
  | @looked seen acted table result hready hseen hacted =>
    refine ⟨table, fun before e after hlog he => ?_⟩
    -- Reading a table does neither, so `e` stands behind all that was read.
    have hquiet : ∀ x ∈ seen, ¬ (x.query.discards = true ∨ x.query.isCommand = true) := by
      intro x hx
      cases reads_of_observed hseen x hx with
      | resolve => simp [Query.discards, Query.isCommand]
      | call answer hcall => simp [hcall, Query.isCommand]
    obtain ⟨part, rfl, rfl⟩ := Program.exists_of_append_eq hlog hquiet he
    have hasks := asks_of_took hacted
    refine ⟨hready, tableIn_observed_append hseen fun x hx => ?_, hasks e (by simp)⟩
    exact (hasks x (List.mem_append_left _ hx)).toldTable?_eq_none

theorem pod_of_passed {report : Report} (h : Passed tools t ready log report) {pod : PodName}
    {answer : Except Error Address} (hmem : resolved pod answer ∈ log) :
    ∃ role index, pod = t.pod role index ∧
      (index < t.replicas role ∨ t.leaders = 0 ∧ role = .leader ∧ index = 0) := by
  cases h with
  | waiting => exact absurd hmem List.not_mem_nil
  | @looked seen acted table result _ hseen hacted =>
    rcases List.mem_append.mp hmem with hmem | hmem
    · cases reads_of_observed hseen _ hmem with
      | resolve _ hpod =>
        obtain ⟨index, hindex, rfl⟩ := List.mem_map.mp hpod
        have hlt : index < max t.leaders 1 := List.mem_range.mp hindex
        refine ⟨.leader, index, rfl, ?_⟩
        by_cases hleaders : t.leaders = 0
        · exact .inr ⟨hleaders, rfl, by omega⟩
        · exact .inl (show index < t.leaders by omega)
    · obtain ⟨role, index, rfl, hindex⟩ := (asks_of_took hacted _ hmem).of_resolved
      exact ⟨role, index, rfl, .inl hindex⟩

theorem firstLeader_eq (t : Target) : t.firstLeader = ⟨t.ns, t.name ++ "-leader-0"⟩ := by
  have h : t.name ++ "-" ++ "leader" ++ "-" ++ toString 0 = t.name ++ "-leader-0" := by
    rw [String.append_assoc, String.append_assoc, String.append_assoc]
    rfl
  exact congrArg (PodName.mk t.ns) h

/-- A pass that finds the wrong number of ready pods asks nothing.  Nodes are reset
or flushed only when the table read before has all its rows and a failing one
among them, and a cluster is formed or extended only when rows are missing or too
many; so no pass does both.  Commands run in the first leader, and only pods of
the cluster are looked up. -/
theorem pass_safe (tools : Tools) (t : Target) (ready : ReadyCounts) {σ : Type}
    (respond : Responder interface σ) (s : σ) :
    let log := ((pass tools t ready).runLogged respond s).2.1
    (¬ (ready.leaders.toInt = t.leaders ∧ ready.followers.toInt = t.followers) → log = []) ∧
    (∀ before e after, log = before ++ e :: after → e.query.discards = true →
      (ready.leaders.toInt = t.leaders ∧ ready.followers.toInt = t.followers) ∧
        0 < t.leaders ∧ (tableIn before).size = t.leaders + t.followers ∧
          0 < (tableIn before).countFailing) ∧
    (∀ before pod argv answer after, log = before ++ executed pod argv answer :: after →
      (ready.leaders.toInt = t.leaders ∧ ready.followers.toInt = t.followers) ∧
        0 < t.leaders ∧ (tableIn before).size ≠ t.leaders + t.followers ∧
          pod = ⟨t.ns, t.name ++ "-leader-0"⟩ ∧
          (argv[2]? = some "create" ∧ (tableIn before).countRole .leader ≠ t.leaders ∨
            argv[2]? = some "add-node" ∧ (tableIn before).countRole .leader = t.leaders)) ∧
    ((∃ e ∈ log, e.query.isCommand = true) → ∀ e ∈ log, e.query.discards = false) ∧
    (∀ pod answer, resolved pod answer ∈ log →
      ∃ role index, pod = ⟨t.ns, t.name ++ "-" ++ role.name ++ "-" ++ toString index⟩ ∧
        (index < t.replicas role ∨ t.leaders = 0 ∧ role = .leader ∧ index = 0)) := by
  intro log
  have hpassed : Passed tools t ready log _ :=
    passed_of_yields (Program.yields_runLogged respond (pass tools t ready) s)
  clear_value log
  obtain ⟨table, hasks⟩ := asks_of_passed hpassed
  refine ⟨?quiet, ?discarding, ?commands, ?apart, ?pods⟩
  case quiet =>
    intro hready
    exact eq_nil_of_passed hpassed fun hmeet => hready (ReadyCounts.meet_eq_true_iff.mp hmeet)
  case discarding =>
    intro before e after hlog he
    obtain ⟨hready, htable, hask⟩ := hasks before e after hlog (.inl he)
    have hstep := decideStep_eq_failover_iff.mp (hask.step_eq_of_discards he)
    rw [htable]
    exact ⟨ReadyCounts.meet_eq_true_iff.mp hready, hstep⟩
  case commands =>
    intro before pod argv answer after hlog
    obtain ⟨hready, htable, hask⟩ := hasks before _ after hlog (.inr rfl)
    obtain ⟨hpod, hargv⟩ := hask.of_executed
    rw [hpod, firstLeader_eq, htable]
    rcases hargv with ⟨hstep, hargv⟩ | ⟨hstep, hargv⟩
    · obtain ⟨hleaders, hsize, hrole⟩ := decideStep_eq_bootstrap_iff.mp hstep
      exact ⟨ReadyCounts.meet_eq_true_iff.mp hready, hleaders, hsize, rfl, .inl ⟨hargv, hrole⟩⟩
    · obtain ⟨hleaders, hsize, hrole, -⟩ := decideStep_eq_attachFollowers_iff.mp hstep
      exact ⟨ReadyCounts.meet_eq_true_iff.mp hready, hleaders, hsize, rfl, .inr ⟨hargv, hrole⟩⟩
  case apart =>
    rintro ⟨⟨query, answer⟩, hmem, hcommand⟩ e he
    rw [← Bool.not_eq_true]
    intro hdiscards
    obtain ⟨before, after, hlog⟩ := List.append_of_mem hmem
    obtain ⟨before', after', hlog'⟩ := List.append_of_mem he
    obtain ⟨-, -, hask⟩ := hasks before _ after hlog (.inr hcommand)
    obtain ⟨-, -, hask'⟩ := hasks before' e after' hlog' (.inl hdiscards)
    have hstep := hask'.step_eq_of_discards hdiscards
    cases query with
    | resolve => exact absurd hcommand Bool.false_ne_true
    | store => exact absurd hcommand Bool.false_ne_true
    | execute pod argv =>
      rcases hask.of_executed.2 with ⟨hother, -⟩ | ⟨hother, -⟩ <;>
        exact absurd (hother.symm.trans hstep) (by decide)
  case pods =>
    intro pod answer hmem
    exact pod_of_passed hpassed hmem

end Node
end RedisKeeper
