import Mathlib.Data.List.Basic
import RedisKeeper.Proofs.Node.RowOrder
import RedisKeeper.Proofs.Node.Safety

/-
Attaching the followers of a cluster.

What happens to one follower is settled by three answers: its address, that of its leader,
and how the command goes (`Answers`).  Each of them is asked for only if the ones before it
give reason to (`Answers.asked`).  The runs over all followers are just those in which every
follower meets answers of its own, one follower after the other (`yields_attachAll_iff`), so
no answer about one of them has a bearing on another.  What was executed and how the
followers were counted is read off the answers (`attachAll_accounted`).
-/
namespace RedisKeeper
namespace Node

/-- What is answered about one follower.  Some of it may not be asked for. -/
structure Answers where
  follower : Except Error Address
  leader : Except Error Address
  command : Except Error Output

variable {tools : Tools} {t : Target} {table : Snapshot} {index : Nat}

namespace Answers

def listed (x : Answers) (table : Snapshot) : Bool :=
  match x.follower with
  | .ok a => table.lists a.host
  | .error _ => false

def unlisted (x : Answers) (table : Snapshot) : Bool :=
  match x.follower with
  | .ok a => !table.lists a.host
  | .error _ => false

/-- The command for the follower with an index, if it has a leader and an address, if the
table does not list it and if its leader has an address. -/
def argv? (x : Answers) (tools : Tools) (t : Target) (table : Snapshot) (index : Nat) :
    Option (List String) :=
  match x.follower, x.leader with
  | .ok a, .ok b =>
    if index < t.leaders ∧ table.lists a.host = false then
      some [tools.program, "--cluster", "add-node", a.endpoint tools.tcp, b.endpoint tools.tcp,
        "--cluster-slave"]
    else none
  | _, _ => none

def execution? (x : Answers) (tools : Tools) (t : Target) (table : Snapshot) (index : Nat) :
    Option (Exchange interface) :=
  (x.argv? tools t table index).map fun argv => executed (t.pod .leader 0) argv x.command

/-- Whether the command was executed and succeeded. -/
def joined (x : Answers) (tools : Tools) (t : Target) (table : Snapshot) (index : Nat) : Bool :=
  (x.argv? tools t table index).isSome && x.command.isOk

/-- All that is asked about the follower with an index, in order. -/
def asked (x : Answers) (tools : Tools) (t : Target) (table : Snapshot) (index : Nat) : Log :=
  if t.leaders ≤ index then []
  else
    resolved (t.pod .follower index) x.follower ::
      if x.unlisted table then
        resolved (t.pod .leader index) x.leader :: (x.execution? tools t table index).toList
      else []

/-- What becomes of the follower with an index. -/
def fate (x : Answers) (tools : Tools) (t : Target) (table : Snapshot) (index : Nat) :
    Attachment :=
  if t.leaders ≤ index then .unpaired
  else if x.listed table then .skipped
  else if x.joined tools t table index then .attached (t.pod .follower index).name
  else .failed

/-! ## The ways it can go -/

section

variable {x : Answers} {a b : Address} {e : Error} (tools table)

theorem course_unpaired (hindex : t.leaders ≤ index) :
    x.asked tools t table index = [] ∧ x.fate tools t table index = .unpaired := by
  simp [asked, fate, hindex]

theorem course_unresolved (hindex : index < t.leaders) (hfollower : x.follower = .error e) :
    x.asked tools t table index = [resolved (t.pod .follower index) (.error e)] ∧
      x.fate tools t table index = .failed := by
  have hpaired : ¬ t.leaders ≤ index := by omega
  simp [asked, fate, hpaired, hfollower, listed, unlisted, joined, argv?]

theorem course_listed (hindex : index < t.leaders) (hfollower : x.follower = .ok a)
    (hlisted : table.lists a.host = true) :
    x.asked tools t table index = [resolved (t.pod .follower index) (.ok a)] ∧
      x.fate tools t table index = .skipped := by
  have hpaired : ¬ t.leaders ≤ index := by omega
  simp [asked, fate, hpaired, hfollower, listed, unlisted, hlisted]

theorem course_leaderless (hindex : index < t.leaders) (hfollower : x.follower = .ok a)
    (hlisted : table.lists a.host = false) (hleader : x.leader = .error e) :
    x.asked tools t table index =
        [resolved (t.pod .follower index) (.ok a), resolved (t.pod .leader index) (.error e)] ∧
      x.fate tools t table index = .failed := by
  have hpaired : ¬ t.leaders ≤ index := by omega
  simp [asked, fate, hpaired, hfollower, hleader, listed, unlisted, hlisted, joined,
    execution?, argv?]

theorem course_executed (hindex : index < t.leaders) (hfollower : x.follower = .ok a)
    (hlisted : table.lists a.host = false) (hleader : x.leader = .ok b) :
    x.asked tools t table index =
        [resolved (t.pod .follower index) (.ok a), resolved (t.pod .leader index) (.ok b),
          executed (t.pod .leader 0)
            [tools.program, "--cluster", "add-node", a.endpoint tools.tcp, b.endpoint tools.tcp,
              "--cluster-slave"]
            x.command] ∧
      x.fate tools t table index =
        if x.command.isOk then .attached (t.pod .follower index).name else .failed := by
  have hpaired : ¬ t.leaders ≤ index := by omega
  simp [asked, fate, hpaired, hindex, hfollower, hleader, listed, unlisted, hlisted, joined,
    execution?, argv?]

end

theorem exists_of_attached {log : Log} {result : Attachment}
    (h : Attached tools t table index log result) :
    ∃ x : Answers, x.asked tools t table index = log ∧ x.fate tools t table index = result := by
  cases h with
  | unpaired hindex => exact ⟨⟨default, default, default⟩, course_unpaired _ _ hindex⟩
  | unresolved e hindex =>
    exact ⟨⟨.error e, default, default⟩, course_unresolved _ _ hindex rfl⟩
  | skipped a hindex hlisted =>
    exact ⟨⟨.ok a, default, default⟩, course_listed _ _ hindex rfl hlisted⟩
  | leaderless a e hindex hlisted =>
    exact ⟨⟨.ok a, .error e, default⟩, course_leaderless _ _ hindex rfl hlisted rfl⟩
  | refused a b e hindex hlisted =>
    exact ⟨⟨.ok a, .ok b, .error e⟩, course_executed _ _ hindex rfl hlisted rfl⟩
  | attached a b out hindex hlisted =>
    exact ⟨⟨.ok a, .ok b, .ok out⟩, course_executed _ _ hindex rfl hlisted rfl⟩

theorem yields_attach (x : Answers) :
    (attach tools t table index).Yields (x.asked tools t table index)
      (x.fate tools t table index) := by
  rcases Nat.lt_or_ge index t.leaders with hindex | hindex
  · have hpaired : ¬ t.leaders ≤ index := by omega
    rw [attach, if_neg hpaired]
    cases hfollower : x.follower with
    | error e =>
      obtain ⟨hasked, hfate⟩ := course_unresolved tools table hindex hfollower
      rw [hasked, hfate]
      exact ⟨_, _, rfl, rfl, rfl⟩
    | ok a =>
      cases hlisted : table.lists a.host with
      | true =>
        obtain ⟨hasked, hfate⟩ := course_listed tools table hindex hfollower hlisted
        rw [hasked, hfate]
        refine ⟨.ok a, _, rfl, ?_⟩
        simp [Program.bind, hlisted]
      | false =>
        cases hleader : x.leader with
        | error e =>
          obtain ⟨hasked, hfate⟩ := course_leaderless tools table hindex hfollower hlisted hleader
          rw [hasked, hfate]
          refine ⟨.ok a, _, rfl, ?_⟩
          simp only [Program.bind, hlisted]
          exact ⟨.error e, _, rfl, rfl, rfl⟩
        | ok b =>
          obtain ⟨hasked, hfate⟩ := course_executed tools table hindex hfollower hlisted hleader
          rw [hasked, hfate]
          refine ⟨.ok a, _, rfl, ?_⟩
          simp only [Program.bind, hlisted]
          refine ⟨.ok b, _, rfl, x.command, _, rfl, ?_⟩
          cases x.command with
          | error e => exact ⟨rfl, rfl⟩
          | ok out => exact ⟨rfl, rfl⟩
  · obtain ⟨hasked, hfate⟩ := course_unpaired tools table hindex
    rw [hasked, hfate, attach, if_pos hindex]
    exact ⟨rfl, rfl⟩

/-! ## What was executed, and what has become of it -/

theorem of_argv? {x : Answers} {argv : List String}
    (h : x.argv? tools t table index = some argv) :
    index < t.leaders ∧ ∃ a b, x.follower = .ok a ∧ table.lists a.host = false ∧
      x.leader = .ok b := by
  obtain ⟨follower, leader, command⟩ := x
  cases follower with
  | error e => exact absurd h nofun
  | ok a =>
    cases leader with
    | error e => exact absurd h nofun
    | ok b =>
      obtain ⟨⟨hindex, hlisted⟩, -⟩ := Option.ite_none_right_eq_some.mp h
      exact ⟨hindex, a, b, rfl, hlisted, rfl⟩

theorem argv?_of_unpaired {x : Answers} (hindex : t.leaders ≤ index) :
    x.argv? tools t table index = none := by
  apply Option.eq_none_iff_forall_ne_some.mpr
  intro argv hargv
  have hpaired := (of_argv? hargv).1
  omega

theorem argv?_of_not_unlisted {x : Answers} (h : x.unlisted table = false) :
    x.argv? tools t table index = none := by
  apply Option.eq_none_iff_forall_ne_some.mpr
  intro argv hargv
  obtain ⟨-, a, b, hfollower, hlisted, -⟩ := of_argv? hargv
  simp [unlisted, hfollower, hlisted] at h

theorem filter_asked (x : Answers) :
    (x.asked tools t table index).filter (·.query.isCommand) =
      (x.execution? tools t table index).toList := by
  unfold asked execution?
  split
  · rename_i hindex
    rw [argv?_of_unpaired hindex]
    rfl
  · split
    · cases x.argv? tools t table index with
      | none => rfl
      | some argv => rfl
    · rename_i hlisted
      rw [argv?_of_not_unlisted (by simpa using hlisted)]
      rfl

theorem of_joined {x : Answers} (h : x.joined tools t table index = true) :
    index < t.leaders ∧ x.listed table = false := by
  obtain ⟨argv, hargv⟩ := Option.isSome_iff_exists.mp (Bool.and_eq_true_iff.mp h).1
  obtain ⟨hindex, a, b, hfollower, hlisted, -⟩ := of_argv? hargv
  exact ⟨hindex, by simp [listed, hfollower, hlisted]⟩

theorem pod?_fate (x : Answers) :
    (x.fate tools t table index).pod? =
      if x.joined tools t table index then some (t.pod .follower index).name else none := by
  cases hjoined : x.joined tools t table index with
  | true =>
    obtain ⟨hindex, hlisted⟩ := of_joined hjoined
    have hpaired : ¬ t.leaders ≤ index := by omega
    simp [fate, hpaired, hlisted, hjoined, Attachment.pod?]
  | false =>
    unfold fate
    rw [hjoined]
    split
    · rfl
    · split <;> rfl

theorem fate_eq_unpaired_iff (x : Answers) :
    x.fate tools t table index = .unpaired ↔ t.leaders ≤ index := by
  unfold fate
  grind

theorem fate_eq_skipped_iff (x : Answers) :
    x.fate tools t table index = .skipped ↔ index < t.leaders ∧ x.listed table = true := by
  unfold fate
  grind

theorem fate_eq_failed_iff (x : Answers) :
    x.fate tools t table index = .failed ↔
      index < t.leaders ∧ x.listed table = false ∧ x.joined tools t table index = false := by
  unfold fate
  grind

end Answers

/-! ## All followers -/

theorem exists_answers_of_each {indices : List Nat} (hnodup : indices.Nodup) {log : Log}
    {results : List Attachment}
    (h : (Program.each (attach tools t table) indices).Yields log results) :
    ∃ answers : Nat → Answers,
      log = indices.flatMap (fun i => (answers i).asked tools t table i) ∧
        results = indices.map fun i => (answers i).fate tools t table i := by
  induction indices generalizing log results with
  | nil =>
    obtain ⟨rfl, rfl⟩ := Program.yields_each_nil.mp h
    exact ⟨fun _ => ⟨default, default, default⟩, rfl, rfl⟩
  | cons index indices ih =>
    obtain ⟨first, second, result, more, rfl, rfl, hfirst, hsecond⟩ :=
      Program.yields_each_cons.mp h
    obtain ⟨hnew, hnodup⟩ := List.nodup_cons.mp hnodup
    obtain ⟨x, rfl, rfl⟩ := Answers.exists_of_attached (attached_of_yields hfirst)
    obtain ⟨answers, rfl, rfl⟩ := ih hnodup hsecond
    have hothers : ∀ i ∈ indices, Function.update answers index x i = answers i := by
      intro i hi
      apply Function.update_of_ne
      intro heq
      exact hnew (heq ▸ hi)
    refine ⟨Function.update answers index x, ?_, ?_⟩
    · rw [List.flatMap_cons, Function.update_self]
      refine congrArg _ (List.flatMap_congr fun i hi => ?_)
      rw [hothers i hi]
    · rw [List.map_cons, Function.update_self]
      refine congrArg _ (List.map_congr_left fun i hi => ?_)
      rw [hothers i hi]

theorem yields_each_attach (answers : Nat → Answers) (indices : List Nat) :
    (Program.each (attach tools t table) indices).Yields
      (indices.flatMap fun i => (answers i).asked tools t table i)
      (indices.map fun i => (answers i).fate tools t table i) := by
  induction indices with
  | nil => exact Program.yields_each_nil.mpr ⟨rfl, rfl⟩
  | cons index indices ih =>
    apply Program.yields_each_cons.mpr
    exact ⟨_, _, _, _, List.flatMap_cons, List.map_cons, (answers index).yields_attach, ih⟩

theorem yields_attachAll_iff {log : Log} {tally : AttachTally} :
    (attachAll tools t table).Yields log tally ↔
      ∃ answers : Nat → Answers,
        log = (List.range t.followers).flatMap (fun i => (answers i).asked tools t table i) ∧
          tally = .of ((List.range t.followers).map fun i => (answers i).fate tools t table i) := by
  constructor
  · intro h
    obtain ⟨log, last, results, rfl, hlog, rfl, rfl⟩ := Program.yields_bind.mp h
    obtain ⟨answers, rfl, rfl⟩ := exists_answers_of_each List.nodup_range hlog
    exact ⟨answers, List.append_nil _, rfl⟩
  · intro h
    obtain ⟨answers, rfl, rfl⟩ := h
    apply Program.yields_bind.mpr
    exact ⟨_, [], _, (List.append_nil _).symm, yields_each_attach answers _, rfl, rfl⟩

/-- What a run over all followers comes to, told by the answers that each of them met. -/
structure Accounted (tools : Tools) (t : Target) (table : Snapshot) (answers : Nat → Answers)
    (log : Log) (tally : AttachTally) : Prop where
  asked : log = (List.range t.followers).flatMap fun i => (answers i).asked tools t table i
  executed : log.filter (·.query.isCommand) =
    (List.range t.followers).filterMap fun i => (answers i).execution? tools t table i
  attached : tally.attached =
    ((List.range t.followers).filter fun i => (answers i).joined tools t table i).map
      fun i => (t.pod .follower i).name
  skipped : tally.skipped =
    (List.range t.followers).countP fun i => i < t.leaders && (answers i).listed table
  unpaired : tally.unpaired = (List.range t.followers).countP fun i => t.leaders ≤ i
  failed : tally.failed =
    (List.range t.followers).countP fun i =>
      i < t.leaders && !(answers i).listed table && !(answers i).joined tools t table i
  total : tally.attached.length + tally.skipped + tally.unpaired + tally.failed = t.followers

theorem AttachTally.total_of (results : List Attachment) :
    (AttachTally.of results).attached.length + (AttachTally.of results).skipped +
      (AttachTally.of results).unpaired + (AttachTally.of results).failed = results.length := by
  unfold AttachTally.of
  induction results with
  | nil => rfl
  | cons result results ih =>
    cases result <;> simp [List.filterMap_cons, Attachment.pod?] at ih ⊢ <;> omega

theorem count_fates (answers : Nat → Answers) (indices : List Nat) {result : Attachment}
    {p : Nat → Bool} (hp : ∀ i, (answers i).fate tools t table i = result ↔ p i = true) :
    (indices.map fun i => (answers i).fate tools t table i).count result = indices.countP p := by
  rw [List.count, List.countP_map]
  apply List.countP_congr
  intro i _
  simp [hp]

theorem accounted_of_answers (answers : Nat → Answers) :
    Accounted tools t table answers
      ((List.range t.followers).flatMap fun i => (answers i).asked tools t table i)
      (.of ((List.range t.followers).map fun i => (answers i).fate tools t table i)) where
  asked := rfl
  executed := by
    rw [List.filter_flatMap, List.filterMap_eq_flatMap_toList]
    simp only [Answers.filter_asked]
  attached := by
    show (List.map _ _).filterMap Attachment.pod? = _
    rw [List.filterMap_map, ← List.filterMap_eq_map', List.filterMap_filter]
    exact List.filterMap_congr fun i _ => (answers i).pod?_fate
  skipped := count_fates answers _ fun i => by simp [Answers.fate_eq_skipped_iff]
  unpaired := count_fates answers _ fun i => by simp [Answers.fate_eq_unpaired_iff]
  failed := count_fates answers _ fun i => by simp [Answers.fate_eq_failed_iff, and_assoc]
  total := by
    rw [AttachTally.total_of, List.length_map, List.length_range]

instance (query : Query) : Inhabited (interface.Answer query) :=
  match query with
  | .resolve _ => ⟨.error default⟩
  | .execute _ _ => ⟨.error default⟩
  | .store (.nodes _) => ⟨.error default⟩
  | .store (.connect _ _) | .store (.reset _) | .store (.flush _) | .store (.close _) =>
    ⟨.error default⟩

/-- Where the table lists every follower that has a leader, there is nothing to execute. -/
theorem not_isCommand_of_listed {answers : Nat → Answers} {log : Log} {tally : AttachTally}
    (h : Accounted tools t table answers log tally)
    (hlisted : ∀ i < t.followers, i < t.leaders →
      ∀ a, resolved (t.pod .follower i) (.ok a) ∈ log → table.lists a.host = true) :
    ∀ e ∈ log, e.query.isCommand = false := by
  intro e he
  by_contra hcommand
  have hmem : e ∈ log.filter (·.query.isCommand) :=
    List.mem_filter.mpr ⟨he, by simpa using hcommand⟩
  rw [h.executed] at hmem
  obtain ⟨i, hi, hexecution⟩ := List.mem_filterMap.mp hmem
  obtain ⟨argv, hargv, -⟩ := Option.map_eq_some_iff.mp hexecution
  obtain ⟨hindex, a, b, hfollower, hunlisted, hleader⟩ := Answers.of_argv? hargv
  have hasked : resolved (t.pod .follower i) (.ok a) ∈ log := by
    rw [h.asked, List.mem_flatMap]
    refine ⟨i, hi, ?_⟩
    rw [(Answers.course_executed tools table hindex hfollower hunlisted hleader).1]
    exact List.mem_cons_self
  have hlists := hlisted i (List.mem_range.mp hi) hindex a hasked
  rw [hunlisted] at hlists
  exact absurd hlists Bool.false_ne_true

/-- What is executed while the followers are attached, and how they are counted, whatever is
answered.  The answers about one follower put no condition on those about another: they can
be any at all. -/
theorem attachAll_accounted (tools : Tools) (t : Target) (table : Snapshot) :
    (∀ {σ : Type} (respond : Responder interface σ) (s : σ),
      let run := (attachAll tools t table).runLogged respond s
      (∃ answers : Nat → Answers, Accounted tools t table answers run.2.1 run.1) ∧
        ((∀ i < t.followers, i < t.leaders →
          ∀ a, resolved (t.pod .follower i) (.ok a) ∈ run.2.1 → table.lists a.host = true) →
            ∀ e ∈ run.2.1, e.query.isCommand = false)) ∧
    ∀ answers : Nat → Answers, ∃ (σ : Type) (respond : Responder interface σ) (s : σ),
      let run := (attachAll tools t table).runLogged respond s
      Accounted tools t table answers run.2.1 run.1 := by
  constructor
  · intro σ respond s run
    have hrun : ∃ answers : Nat → Answers, Accounted tools t table answers run.2.1 run.1 := by
      obtain ⟨answers, hlog, htally⟩ := yields_attachAll_iff.mp
        (Program.yields_runLogged respond (attachAll tools t table) s)
      refine ⟨answers, ?_⟩
      show Accounted tools t table answers run.2.1 run.1
      rw [hlog, htally]
      exact accounted_of_answers answers
    obtain ⟨answers, haccounted⟩ := hrun
    exact ⟨⟨answers, haccounted⟩, not_isCommand_of_listed haccounted⟩
  · intro answers
    have hcan : ∃ log tally, (attachAll tools t table).Yields log tally ∧
        Accounted tools t table answers log tally :=
      ⟨_, _, yields_attachAll_iff.mpr ⟨answers, rfl, rfl⟩, accounted_of_answers answers⟩
    obtain ⟨log, tally, hyields, haccounted⟩ := hcan
    refine ⟨Log, Program.recite, log, ?_⟩
    rw [Program.runLogged_recite hyields]
    exact haccounted

/-- The addresses of the leaders and of all followers but the one with index 1. -/
def address? (pod : PodName) : Option Address :=
  match pod.name with
  | "cache-leader-0" => some (.v4 ⟨10, 0, 0, 10⟩)
  | "cache-leader-1" => some (.v4 ⟨10, 0, 0, 11⟩)
  | "cache-leader-2" => some (.v4 ⟨10, 0, 0, 12⟩)
  | "cache-follower-0" => some (.v4 ⟨10, 0, 1, 10⟩)
  | "cache-follower-2" => some (.v4 ⟨10, 0, 1, 12⟩)
  | _ => none

/-- One follower has no address, and every command succeeds. -/
def oneMissing : Responder interface Unit
  | .resolve pod, s =>
    (match address? pod with
      | some a => .ok a
      | none => .error (.notFound pod), s)
  | query, s => telling "" query s

theorem address?_of_mem {α : Type} {p : Work α} {pod : PodName} {a : Address}
    (h : resolved pod (.ok a) ∈ (p.runLogged oneMissing ()).2.1) : address? pod = some a := by
  obtain ⟨s, hanswer⟩ := Program.answer_of_mem_runLogged oneMissing p () h
  simp only [resolved, oneMissing] at hanswer
  cases haddress : address? pod with
  | none =>
    rw [haddress] at hanswer
    exact absurd hanswer nofun
  | some b =>
    rw [haddress] at hanswer
    rw [Except.ok.inj hanswer]

/-- The commands that were executed, each with its pod. -/
def commands (log : Log) : List (PodName × List String) :=
  log.filterMap fun e =>
    match e.query with
    | .execute pod argv => some (pod, argv)
    | .resolve _ | .store _ => none

/-- The first of four followers is listed, the second is missing and the last has no leader.
The third joins its leader, unless the table lists it as well. -/
theorem attachAll_accounted_oneMissing :
    let tools : Tools := ⟨"redis-cli", 6379⟩
    let t : Target := ⟨"cache", "prod", 3, 4⟩
    let few := Snapshot.ofText "b1 10.0.1.10:6379@16379 slave a1 0 0 1 connected\n"
    let all := Snapshot.ofText ("b1 10.0.1.10:6379@16379 slave a1 0 0 1 connected\n" ++
      "b3 10.0.1.12:6379@16379 slave a3 0 0 1 connected\n")
    let joining := (attachAll tools t few).runLogged oneMissing ()
    let idle := (attachAll tools t all).runLogged oneMissing ()
    ((∃ answers, Accounted tools t few answers joining.2.1 joining.1) ∧
      commands joining.2.1 =
        [(⟨"prod", "cache-leader-0"⟩,
          ["redis-cli", "--cluster", "add-node", "10.0.1.12:6379", "10.0.0.12:6379",
            "--cluster-slave"])] ∧
      joining.1 = ⟨["cache-follower-2"], 1, 1, 1⟩) ∧
    (∀ i < t.followers, i < t.leaders →
      ∀ a, resolved (t.pod .follower i) (.ok a) ∈ idle.2.1 → all.lists a.host = true) ∧
    idle.1 = ⟨[], 2, 1, 1⟩ ∧ ∀ e ∈ idle.2.1, e.query.isCommand = false := by
  intro tools t few all
  have hlisted : ∀ i < t.followers, i < t.leaders →
      ∀ a, resolved (t.pod .follower i) (.ok a) ∈
        ((attachAll tools t all).runLogged oneMissing ()).2.1 → all.lists a.host = true := by
    intro i _ hpaired a ha
    have hall : ∀ i < t.leaders, ∀ a ∈ address? (t.pod .follower i), all.lists a.host = true := by
      decide +kernel
    exact hall i hpaired a (address?_of_mem ha)
  obtain ⟨hjoining, -⟩ := (attachAll_accounted tools t few).1 oneMissing ()
  obtain ⟨-, hidle⟩ := (attachAll_accounted tools t all).1 oneMissing ()
  exact ⟨⟨hjoining, by decide +kernel, by decide +kernel⟩, hlisted, by decide +kernel,
    hidle hlisted⟩

end Node
end RedisKeeper
