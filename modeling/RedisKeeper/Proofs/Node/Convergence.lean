import RedisKeeper.Proofs.Node.Calm
import RedisKeeper.Proofs.Node.Orderly

/-
Passes over a cluster form it once and then leave it alone.

A history of passes is orderly from its start (`orderly_of_history`), whatever
failed on the way, so the membership at its end is told by the commands that
worked (`formed_afterAll_iff`, `mem_joined_afterAll_iff`).
-/
namespace RedisKeeper
namespace Node
namespace Site

variable {site : Site} {m : Membership} {log : Log}

/-! ## Passes one after the other -/

/-- Passes one after the other, with all that was asked in them, from a time at
which no command has worked. -/
inductive History (site : Site) : Log → Prop
  | start : History site []
  | pass {past log : Log} {report : Report} : History site past →
    site.Round (site.afterAll .fresh past) log report → History site (past ++ log)

/-- Whether a command that forms the cluster worked. -/
def Formed (log : Log) : Prop := ∃ e ∈ log, worked e = true ∧ e.query.creates = true

/-- Whether a command that attaches a follower worked. -/
def Joined (site : Site) (log : Log) (i : Nat) : Prop :=
  ∃ e ∈ log, worked e = true ∧ e.query.joins (site.endpoint .follower i) = true

theorem orderly_of_history (hleaders : 2 ≤ site.target.leaders)
    (hfollowers : site.target.followers ≤ site.target.leaders) (hapart : site.Apart)
    (h : site.History log) : site.Orderly .fresh log := by
  induction h with
  | start => exact trivial
  | pass _ hround ih =>
    have hsound := sound_afterAll hapart sound_fresh ih
    exact along_append.mpr ⟨ih, (orderly_of_round hleaders hfollowers hapart hsound hround).1⟩

theorem due_of_orderly {before after : Log} {e : Exchange interface}
    (h : site.Orderly m (before ++ e :: after)) :
    site.Orderly m before ∧ site.Due (site.afterAll m before) e.query := by
  obtain ⟨hbefore, hdue, -⟩ := along_append.mp h
  exact ⟨hbefore, hdue⟩

theorem formed_after_iff {e : Exchange interface} :
    (site.after m e).formed = true ↔
      m.formed = true ∨ worked e = true ∧ e.query.creates = true := by
  rw [after]
  cases worked e <;> cases e.query.creates <;> simp

theorem formed_afterAll_iff :
    (site.afterAll m log).formed = true ↔ m.formed = true ∨ Formed log := by
  induction log generalizing m with
  | nil => simp [Formed]
  | cons e log ih => simp only [afterAll_cons, ih, formed_after_iff, Formed, List.mem_cons,
      exists_eq_or_imp, or_assoc]

theorem mem_joined_after_iff (hapart : site.Apart) (hsound : m.Sound site.target.followers)
    {e : Exchange interface} (hdue : site.Due m e.query) {i : Nat}
    (hi : i < site.target.followers) :
    i ∈ (site.after m e).joined ↔
      i ∈ m.joined ∨ worked e = true ∧ e.query.joins (site.endpoint .follower i) = true := by
  obtain ⟨query, answer⟩ := e
  have hidle : worked ⟨query, answer⟩ = false → (i ∈ (site.after m ⟨query, answer⟩).joined ↔
      i ∈ m.joined ∨ worked ⟨query, answer⟩ = true ∧
        query.joins (site.endpoint .follower i) = true) := by
    intro hworked
    simp [after_of_not_worked hworked, hworked]
  cases hdue with
  | resolve pod => exact hidle rfl
  | call => exact hidle rfl
  | form hformed =>
    cases answer with
    | error e => exact hidle rfl
    | ok out =>
      have hjoins : Query.joins (site.endpoint .follower i) (.execute site.target.firstLeader
          (formCommand site.tools.program site.leaderEndpoints)) = false := rfl
      rw [after_form, hsound.unformed hformed, hjoins]
      simp
  | join j hformed hj hnew =>
    cases answer with
    | error e => exact hidle rfl
    | ok out =>
      rw [after_join hapart hj, joins_join_iff, List.mem_append, List.mem_singleton]
      refine or_congr_right ⟨fun h => ⟨rfl, by rw [h]⟩, fun h => ?_⟩
      exact (endpoint_inj hapart hj hi h.2).symm

theorem mem_joined_afterAll_iff (hapart : site.Apart) (hsound : m.Sound site.target.followers)
    (h : site.Orderly m log) {i : Nat} (hi : i < site.target.followers) :
    i ∈ (site.afterAll m log).joined ↔ i ∈ m.joined ∨ site.Joined log i := by
  induction log generalizing m with
  | nil => simp [Joined]
  | cons e log ih =>
    obtain ⟨hdue, hlog⟩ := h
    rw [afterAll_cons, ih (sound_after hapart hsound hdue) hlog,
      mem_joined_after_iff hapart hsound hdue hi, or_assoc]
    simp only [Joined, List.mem_cons, exists_eq_or_imp]

/-- A question that is due forms the cluster only once, attaches a follower only
to a cluster that was formed and only once, and discards nothing. -/
theorem Due.spec (hapart : site.Apart) {query : Query} (h : site.Due m query) :
    (query.creates = true → m.formed = false) ∧
      (∀ i < site.target.followers, query.joins (site.endpoint .follower i) = true →
        m.formed = true ∧ i ∉ m.joined) ∧
      query.discards = false ∧
      (∀ pod argv, query = .execute pod argv → pod = site.target.pod .leader 0 ∧
        (argv = [site.tools.program, "--cluster", "create"] ++ site.leaderEndpoints ++
            ["--cluster-yes"] ∨
          ∃ i < site.target.followers, argv = [site.tools.program, "--cluster", "add-node",
            site.endpoint .follower i, site.endpoint .leader i, "--cluster-slave"])) := by
  cases h with
  | resolve => exact ⟨nofun, nofun, rfl, nofun⟩
  | call hcall => exact ⟨nofun, nofun, hcall, nofun⟩
  | form hformed =>
    refine ⟨fun _ => hformed, fun i _ h => absurd h Bool.noConfusion, rfl, ?_⟩
    rintro pod argv ⟨⟩
    exact ⟨rfl, .inl rfl⟩
  | join j hformed hj hnew =>
    refine ⟨fun h => ?_, fun i hi h => ?_, rfl, ?_⟩
    · rw [Query.creates, beq_iff_eq] at h
      exact absurd (Option.some.inj h) (by decide)
    · obtain rfl := endpoint_inj hapart hj hi (joins_join_iff.mp h)
      exact ⟨hformed, hnew⟩
    · rintro pod argv ⟨⟩
      exact ⟨rfl, .inr ⟨j, hj, rfl⟩⟩

/-- However passes went, the cluster is formed at most once, each follower is
attached at most once and only after that, and nothing is ever reset or flushed.
The next pass does what is still missing, all of it if nothing fails on the way,
and once nothing is missing it runs no command. -/
theorem forms_once_then_quiet (site : Site) (hleaders : 2 ≤ site.target.leaders)
    (hfollowers : site.target.followers ≤ site.target.leaders) (hapart : site.Apart)
    {past : Log} (h : site.History past) :
    (∀ before e rest, past = before ++ e :: rest →
      (e.query.creates = true → ¬ Formed before) ∧
      (∀ i < site.target.followers, e.query.joins (site.endpoint .follower i) = true →
        Formed before ∧ ¬ site.Joined before i) ∧
      e.query.discards = false ∧
      (∀ pod argv, e.query = .execute pod argv → pod = site.target.pod .leader 0 ∧
        (argv = [site.tools.program, "--cluster", "create"] ++ site.leaderEndpoints ++
            ["--cluster-yes"] ∨
          ∃ i < site.target.followers, argv = [site.tools.program, "--cluster", "add-node",
            site.endpoint .follower i, site.endpoint .leader i, "--cluster-slave"]))) ∧
    (∀ log report, site.Round (site.afterAll .fresh past) log report →
      (¬ Formed past → report.outcome = .bootstrapping ∧
        ((∀ e ∈ log, failed e = false) → Formed (past ++ log))) ∧
      (Formed past → (∃ i < site.target.followers, ¬ site.Joined past i) →
        report.outcome = .replicating ∧
          ((∀ e ∈ log, failed e = false) →
            ∀ i < site.target.followers, site.Joined (past ++ log) i)) ∧
      (Formed past → (∀ i < site.target.followers, site.Joined past i) →
        report.outcome = .converged ∧ report.succeeded = true ∧
          ∀ e ∈ log, e.query.isCommand = false)) := by
  have hord := orderly_of_history hleaders hfollowers hapart h
  have hsound := sound_afterAll hapart sound_fresh hord
  have hformed : ∀ log : Log, (site.afterAll .fresh log).formed = true ↔ Formed log := by
    intro log
    rw [formed_afterAll_iff]
    exact or_iff_right Bool.noConfusion
  have hjoined : ∀ {log : Log}, site.Orderly .fresh log → ∀ i < site.target.followers,
      (i ∈ (site.afterAll .fresh log).joined ↔ site.Joined log i) := by
    intro log hlog i hi
    rw [mem_joined_afterAll_iff hapart sound_fresh hlog hi]
    exact or_iff_right List.not_mem_nil
  constructor
  · intro before e rest hpast
    rw [hpast] at hord
    obtain ⟨hbefore, hdue⟩ := due_of_orderly hord
    obtain ⟨hcreates, hjoins, hdiscards, hcommands⟩ := hdue.spec hapart
    refine ⟨fun hc hf => ?_, fun i hi hj => ?_, hdiscards, hcommands⟩
    · rw [← hformed, hcreates hc] at hf
      exact absurd hf Bool.noConfusion
    · obtain ⟨hf, hnew⟩ := hjoins i hi hj
      exact ⟨(hformed before).mp hf, fun hmem => hnew ((hjoined hbefore i hi).mpr hmem)⟩
  · intro log report hround
    obtain ⟨hordlog, hforms, hattaches⟩ :=
      orderly_of_round hleaders hfollowers hapart hsound hround
    have houtcome := outcome_of_round hleaders hsound hround
    have hordall : site.Orderly .fresh (past ++ log) := along_append.mpr ⟨hord, hordlog⟩
    rw [← afterAll_append] at hforms hattaches
    refine ⟨fun hf => ?unformed, fun hf hmissing => ?missing, fun hf hall => ?whole⟩
    case unformed =>
      have hf : (site.afterAll .fresh past).formed = false :=
        Bool.eq_false_iff.mpr fun h => hf ((hformed past).mp h)
      rw [houtcome, Membership.due_eq_bootstrap_iff.mpr hf]
      exact ⟨rfl, fun hcalm => (hformed _).mp (hforms hf hcalm)⟩
    case missing =>
      obtain ⟨i, hi, hnew⟩ := hmissing
      have hf := (hformed past).mpr hf
      have hfew : (site.afterAll .fresh past).joined.length < site.target.followers :=
        Nat.lt_of_not_le fun hle => hnew ((hjoined hord i hi).mp (hsound.mem_of_length hle hi))
      rw [houtcome, Membership.due_eq_attachFollowers_iff.mpr ⟨hf, hfew⟩]
      exact ⟨rfl, fun hcalm i hi => (hjoined hordall i hi).mp (hattaches hf hcalm i hi)⟩
    case whole =>
      have hf := (hformed past).mpr hf
      have hlength := Membership.Sound.length_of_mem fun i hi =>
        (hjoined hord i hi).mpr (hall i hi)
      have hdue := Membership.due_eq_none_iff.mpr ⟨hf, hlength⟩
      rw [houtcome, hdue]
      exact ⟨rfl, quiet_of_round hleaders hsound hround hdue⟩

/-- A pass over a cluster in which nothing fails is a round. -/
theorem round_respond (hapart : site.Apart) {ready : ReadyCounts}
    (hready : ready.meet site.target = true) (m : Membership)
    (htold : ∃ e ∈ ((pass site.tools site.target ready).runLogged site.respond m).2.1,
      toldTable? e ≠ none) :
    site.Round m ((pass site.tools site.target ready).runLogged site.respond m).2.1
      ((pass site.tools site.target ready).runLogged site.respond m).1 where
  ran := ⟨ready, hready, Program.yields_runLogged site.respond _ m⟩
  fits := (fits_runLogged hapart _ m).1
  told := htold

/-- Two leaders and one follower. -/
def small : Site where
  tools := ⟨"redis-cli", 6379⟩
  target := ⟨"cache", "prod", 2, 1⟩
  net
    | .leader, i => ⟨10, 0, 0, i.toUInt8 + 1⟩
    | .follower, i => ⟨10, 0, 1, i.toUInt8 + 1⟩

theorem small_apart : small.Apart := by
  have hall : ∀ role ∈ Role.all, ∀ role' ∈ Role.all, ∀ i < small.target.replicas role,
      ∀ j < small.target.replicas role',
        (small.net role i).text <:+ (small.net role' j).text → role = role' ∧ i = j := by
    decide +kernel
  have hrole : ∀ role, role ∈ Role.all := fun role => by cases role <;> decide
  exact fun role role' i j hi hj => hall role (hrole role) role' (hrole role') i hi j hj

theorem small_ready : ReadyCounts.meet ⟨2, 1⟩ small.target = true := by decide

/-- What is asked in a number of passes in which nothing fails. -/
def smallLog : Nat → Log
  | 0 => []
  | n + 1 =>
    smallLog n ++ ((pass small.tools small.target ⟨2, 1⟩).runLogged small.respond
      (small.afterAll .fresh (smallLog n))).2.1

theorem small_log_one : small.History (smallLog 1) :=
  .pass .start (round_respond small_apart small_ready .fresh (by decide +kernel))

theorem small_log_two : small.History (smallLog 2) :=
  .pass small_log_one (round_respond small_apart small_ready _ (by decide +kernel))

/-- Two passes form the cluster of three nodes, and a third one runs no command. -/
theorem small_forms_once_then_quiet :
    small.History (smallLog 2) ∧ Formed (smallLog 2) ∧
      ∀ log report, small.Round (small.afterAll .fresh (smallLog 2)) log report →
        report.outcome = .converged ∧ report.succeeded = true ∧
          ∀ e ∈ log, e.query.isCommand = false := by
  have hformed : Formed (smallLog 2) := by
    unfold Formed
    decide +kernel
  have hjoined : ∀ i < small.target.followers, small.Joined (smallLog 2) i := by
    unfold Joined
    decide +kernel
  refine ⟨small_log_two, hformed, fun log report hround => ?_⟩
  have hspec := forms_once_then_quiet small (by decide) (by decide) small_apart small_log_two
  exact (hspec.2 log report hround).2.2 hformed hjoined

end Site
end Node
end RedisKeeper
