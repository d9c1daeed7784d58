import Mathlib.Data.List.Nodup
import RedisKeeper.Proofs.Node.Membership

/-
A pass over a cluster asks only what is due.

`Due` says what may be asked when the commands so far have come to a membership.
What is due leaves the membership sound (`sound_after`), and every question of a
pass is due when it is asked (`orderly_of_round`): the table that a pass reads is
that of the membership at its start, and what the pass changes on its way does not
concern the followers whose turn comes later.
-/
namespace RedisKeeper
namespace Node
namespace Site

variable {site : Site} {m : Membership} {own : Nat} {table : Snapshot} {log : Log}

/-! ## What is due -/

def leaderEndpoints (site : Site) : List String :=
  (List.range site.target.leaders).map (site.endpoint .leader)

/-- What may be asked when the commands so far have come to a membership. -/
inductive Due (site : Site) (m : Membership) : Query → Prop
  | resolve (pod : PodName) : Due site m (.resolve pod)
  | call {call : Store.Call} : Query.discards (.store call) = false → Due site m (.store call)
  | form : m.formed = false →
    Due site m (.execute site.target.firstLeader
      (formCommand site.tools.program site.leaderEndpoints))
  | join (i : Nat) : m.formed = true → i < site.target.followers → i ∉ m.joined →
    Due site m (.execute site.target.firstLeader
      (joinCommand site.tools.program (site.endpoint .follower i) (site.endpoint .leader i)))

/-- Whether every question of a log is due when it is asked. -/
def Orderly (site : Site) : Membership → Log → Prop := site.Along fun m e => site.Due m e.query

theorem worked_ok (pod : PodName) (argv : List String) (out : Output) :
    worked (executed pod argv (.ok out)) = true := rfl

theorem after_form {pod : PodName} {program : String} {endpoints : List String} (out : Output) :
    site.after m (executed pod (formCommand program endpoints) (.ok out)) = ⟨true, []⟩ := by
  have hcreates : Query.creates (.execute pod (formCommand program endpoints)) = true := rfl
  rw [after, if_pos (worked_ok pod _ out), if_pos hcreates]

theorem endpoint_inj (hapart : site.Apart) {i j : Nat} (hi : i < site.target.followers)
    (hj : j < site.target.followers)
    (h : site.endpoint .follower i = site.endpoint .follower j) : i = j := by
  have htext := List.append_cancel_right (String.ofList_injective h)
  exact (hapart .follower .follower i j hi hj (htext ▸ List.suffix_rfl)).2

theorem joins_join_iff {pod : PodName} {program follower leader endpoint : String} :
    Query.joins endpoint (.execute pod (joinCommand program follower leader)) = true ↔
      follower = endpoint := by
  rw [Query.joins, Bool.and_eq_true, beq_iff_eq, beq_iff_eq]
  exact ⟨fun h => Option.some.inj h.2, fun h => ⟨rfl, congrArg some h⟩⟩

theorem after_join (hapart : site.Apart) {pod : PodName} {program leader : String} {i : Nat}
    (hi : i < site.target.followers) (out : Output) :
    site.after m (executed pod (joinCommand program (site.endpoint .follower i) leader)
      (.ok out)) = { m with joined := m.joined ++ [i] } := by
  have hcreates : Query.creates (.execute pod
      (joinCommand program (site.endpoint .follower i) leader)) ≠ true := by
    rw [Query.creates, Ne, beq_iff_eq]
    exact fun h => absurd (Option.some.inj h) (by decide)
  have honly : (List.range site.target.followers).filter (fun j =>
      Query.joins (site.endpoint .follower j)
        (.execute pod (joinCommand program (site.endpoint .follower i) leader))) = [i] := by
    have hsame : ∀ j ∈ List.range site.target.followers, Query.joins (site.endpoint .follower j)
        (.execute pod (joinCommand program (site.endpoint .follower i) leader)) = (j == i) := by
      intro j hj
      rw [Bool.eq_iff_iff, joins_join_iff, beq_iff_eq]
      exact ⟨fun h => (endpoint_inj hapart hi (List.mem_range.mp hj) h).symm, fun h => by rw [h]⟩
    rw [List.filter_congr hsame, List.filter_beq,
      List.count_eq_one_of_mem List.nodup_range (List.mem_range.mpr hi), List.replicate_one]
  rw [after, if_pos (worked_ok pod _ out), if_neg hcreates, honly]

theorem sound_fresh : Membership.fresh.Sound site.target.followers :=
  ⟨List.nodup_nil, fun _ h => absurd h List.not_mem_nil, fun _ => rfl⟩

/-- What is due leaves the membership sound, whether it works or not. -/
theorem sound_after (hapart : site.Apart) (hsound : m.Sound site.target.followers)
    {e : Exchange interface} (h : site.Due m e.query) :
    (site.after m e).Sound site.target.followers := by
  obtain ⟨query, answer⟩ := e
  cases h with
  | resolve pod => exact hsound
  | call => exact hsound
  | form hformed =>
    cases answer with
    | error e => exact hsound
    | ok out =>
      rw [after_form]
      exact ⟨List.nodup_nil, fun _ h => absurd h List.not_mem_nil, fun _ => rfl⟩
  | join i hformed hi hnew =>
    cases answer with
    | error e => exact hsound
    | ok out =>
      rw [after_join hapart hi]
      refine ⟨?_, ?_, fun h => absurd h (by rw [hformed]; exact Bool.noConfusion)⟩
      · exact hsound.nodup.append (List.nodup_singleton i) (by simpa using hnew)
      · rw [List.forall_mem_append, List.forall_mem_singleton]
        exact ⟨hsound.bound, hi⟩

theorem sound_afterAll (hapart : site.Apart) (hsound : m.Sound site.target.followers)
    (h : site.Orderly m log) : (site.afterAll m log).Sound site.target.followers := by
  induction log generalizing m with
  | nil => exact hsound
  | cons e log ih => exact ih (sound_after hapart hsound h.1) h.2

/-! ## Reading a table -/

/-- Whether an exchange comes to nothing and is due at any time. -/
structure Quiet (site : Site) (e : Exchange interface) : Prop where
  idle : worked e = false
  due : ∀ m, site.Due m e.query

theorem afterAll_of_all_quiet (h : ∀ e ∈ log, site.Quiet e) : site.afterAll m log = m :=
  afterAll_of_quiet fun e he => (h e he).idle

theorem orderly_of_quiet (h : ∀ e ∈ log, site.Quiet e) : site.Orderly m log := by
  induction log with
  | nil => exact trivial
  | cons e log ih =>
    obtain ⟨he, hlog⟩ := List.forall_mem_cons.mp h
    refine ⟨he.due m, ?_⟩
    rw [after_of_not_worked he.idle]
    exact ih hlog

theorem quiet_of_reads {pods : List PodName} {e : Exchange interface} (h : Reads pods e) :
    site.Quiet e := by
  cases h with
  | resolve => exact ⟨rfl, fun m => .resolve _⟩
  | call answer hcall => exact ⟨rfl, fun m => .call hcall⟩

theorem tells_of_inspected (hown : own < site.target.leaders)
    (h : Inspected site.tools.tcp (site.target.pod .leader own) log (.ok table))
    (hfits : site.Fits m log) : site.Tells m own table := by
  cases h with
  | read a text closing =>
    obtain ⟨haddress, -, htext, -⟩ := hfits
    have ha : a = site.address .leader own := haddress .leader own hown rfl
    obtain ⟨table, htells, hwritten⟩ := htext own hown (by rw [ha])
    rcases hwritten with rfl | rfl
    · rwa [Snapshot.ofText_toText htells.valid]
    · rwa [Snapshot.ofText_toText_append htells.valid]

theorem tells_of_observed {pods : List PodName} (h : Observed site.tools.tcp pods log table)
    (hpods : ∀ pod ∈ pods, ∃ own < site.target.leaders, pod = site.target.pod .leader own)
    (hfits : site.Fits m log) (htold : ∃ e ∈ log, toldTable? e ≠ none) :
    ∃ own, site.Tells m own table := by
  induction h generalizing m with
  | nobody =>
    obtain ⟨e, he, -⟩ := htold
    exact absurd he List.not_mem_nil
  | answered hlog =>
    obtain ⟨own, hown, rfl⟩ := hpods _ List.mem_cons_self
    exact ⟨own, tells_of_inspected hown hlog hfits⟩
  | @silent pod pods first rest _ _ hfirst hrest ih =>
    have hsame : site.afterAll m first = m :=
      afterAll_of_all_quiet fun e he => quiet_of_reads (reads_of_inspected hfirst e he)
    have hnone := List.findSome?_eq_none_iff.mp
      (Option.map_eq_none_iff.mp (toldTable?_inspected hfirst))
    obtain ⟨e, he, htable⟩ := htold
    have hmem := (List.mem_append.mp he).resolve_left fun h => htable (hnone e h)
    have hlast := (along_append.mp hfits).2
    rw [hsame] at hlast
    exact ih (fun pod hpod => hpods pod (List.mem_cons_of_mem _ hpod)) hlast ⟨e, hmem, htable⟩

/-! ## Forming the cluster -/

/-- Whether a pod was not resolved or a command failed. -/
def failed : Exchange interface → Bool
  | ⟨.resolve _, .error _⟩ | ⟨.execute _ _, .error _⟩ => true
  | _ => false

theorem quiet_of_addressed {pods : List PodName} {result : Except Error (List String)}
    (h : Addressed site.tools.tcp pods log result) : ∀ e ∈ log, site.Quiet e := by
  intro e he
  obtain ⟨pod, -, answer, rfl⟩ := resolves_of_addressed h e he
  exact ⟨rfl, fun m => .resolve pod⟩

theorem failed_of_addressed {tcp : UInt16} {pods : List PodName} {e : Error}
    {result : Except Error (List String)} (h : Addressed tcp pods log result)
    (hresult : result = .error e) : ∃ x ∈ log, failed x = true := by
  induction h with
  | nobody => exact absurd hresult nofun
  | unresolved pod pods e => exact ⟨_, List.mem_cons_self, rfl⟩
  | @resolved pod a pods log result hlog ih =>
    cases result with
    | ok endpoints => exact absurd hresult nofun
    | error e' =>
      obtain ⟨x, hx, hfailed⟩ := ih hresult
      exact ⟨x, List.mem_cons_of_mem _ hx, hfailed⟩

theorem endpoints_of_addressed {pods : List PodName} {result : Except Error (List String)}
    (h : Addressed site.tools.tcp pods log result) {indices : List Nat}
    (hpods : pods = indices.map (site.target.pod .leader))
    (hindices : ∀ i ∈ indices, i < site.target.leaders) (hfits : site.Fits m log)
    {endpoints : List String} (hresult : result = .ok endpoints) :
    endpoints = indices.map (site.endpoint .leader) := by
  induction h generalizing indices endpoints m with
  | nobody =>
    obtain rfl := List.map_eq_nil_iff.mp hpods.symm
    exact (Except.ok.inj hresult).symm
  | unresolved => exact absurd hresult nofun
  | @resolved pod a pods log result hlog ih =>
    obtain ⟨i, rest, rfl, rfl, rfl⟩ := List.map_eq_cons_iff.mp hpods.symm
    obtain ⟨hi, hrest⟩ := List.forall_mem_cons.mp hindices
    obtain ⟨haddress, hfits⟩ := hfits
    cases result with
    | error e => exact absurd hresult nofun
    | ok more =>
      rw [← Except.ok.inj hresult, ih rfl hrest hfits rfl, haddress .leader i hi rfl]
      rfl

theorem orderly_of_bootstrapped {result : Except Error Output}
    (h : Bootstrapped site.tools site.target log result) (hformed : m.formed = false)
    (hfits : site.Fits m log) :
    site.Orderly m log ∧
      ((∀ e ∈ log, failed e = false) → (site.afterAll m log).formed = true) := by
  cases h with
  | unaddressed hlog =>
    refine ⟨orderly_of_quiet (quiet_of_addressed hlog), fun hcalm => ?_⟩
    obtain ⟨x, hx, hfailed⟩ := failed_of_addressed hlog rfl
    exact absurd hfailed (Bool.eq_false_iff.mp (hcalm x hx))
  | @executed log endpoints _ hlog =>
    have hquiet := quiet_of_addressed hlog
    have hafter : site.afterAll m log = m := afterAll_of_all_quiet hquiet
    have hendpoints : endpoints = site.leaderEndpoints :=
      endpoints_of_addressed hlog rfl (fun i hi => List.mem_range.mp hi)
        (along_append.mp hfits).1 rfl
    rw [hendpoints]
    constructor
    · refine along_append.mpr ⟨orderly_of_quiet hquiet, ?_, trivial⟩
      rw [hafter]
      exact .form hformed
    · intro hcalm
      cases result with
      | error e => exact absurd (hcalm _ (List.mem_append_right _ List.mem_cons_self)) nofun
      | ok out =>
        rw [afterAll_append, afterAll_cons, afterAll_nil, after_form]

/-! ## Attaching the followers -/

/-- What happens to one follower, if the table lists it just when it is attached. -/
theorem orderly_of_attached (hapart : site.Apart) (hformed : m.formed = true) {i : Nat}
    (hi : i < site.target.followers)
    (hlists : table.lists (site.address .follower i).host = true ↔ i ∈ m.joined)
    {result : Attachment} (h : Attached site.tools site.target table i log result)
    (hfits : site.Fits m log) :
    site.Orderly m log ∧
      (site.afterAll m log = m ∨ site.afterAll m log = { m with joined := m.joined ++ [i] }) ∧
        (i < site.target.leaders → (∀ e ∈ log, failed e = false) →
          i ∈ (site.afterAll m log).joined) := by
  cases h with
  | unpaired hleaders =>
    exact ⟨trivial, .inl rfl, fun hi => absurd hi (Nat.not_lt_of_le hleaders)⟩
  | unresolved e =>
    exact ⟨⟨.resolve _, trivial⟩, .inl rfl, fun _ hcalm =>
      absurd (hcalm _ List.mem_cons_self) Bool.noConfusion⟩
  | skipped a _ hlisted =>
    obtain ⟨haddress, -⟩ := hfits
    rw [haddress .follower i hi rfl] at hlisted
    exact ⟨⟨.resolve _, trivial⟩, .inl rfl, fun _ _ => hlists.mp hlisted⟩
  | leaderless a e =>
    exact ⟨⟨.resolve _, .resolve _, trivial⟩, .inl rfl, fun _ hcalm =>
      absurd (hcalm _ (List.mem_cons_of_mem _ List.mem_cons_self)) Bool.noConfusion⟩
  | refused a b e hleader hunlisted =>
    obtain ⟨ha, hb, -⟩ := hfits
    obtain rfl : a = site.address .follower i := ha .follower i hi rfl
    obtain rfl : b = site.address .leader i := hb .leader i hleader rfl
    have hnew : i ∉ m.joined := fun hmem => by simp [hlists.mpr hmem] at hunlisted
    refine ⟨⟨.resolve _, .resolve _, .join i hformed hi hnew, trivial⟩, .inl rfl, ?_⟩
    intro _ hcalm
    have hlast := hcalm _ (List.mem_cons_of_mem _ (List.mem_cons_of_mem _ List.mem_cons_self))
    exact absurd hlast Bool.noConfusion
  | attached a b out hleader hunlisted =>
    obtain ⟨ha, hb, -⟩ := hfits
    obtain rfl : a = site.address .follower i := ha .follower i hi rfl
    obtain rfl : b = site.address .leader i := hb .leader i hleader rfl
    have hnew : i ∉ m.joined := fun hmem => by simp [hlists.mpr hmem] at hunlisted
    have hafter : site.after m (executed site.target.firstLeader
        (joinCommand site.tools.program (site.endpoint .follower i) (site.endpoint .leader i))
        (.ok out)) = { m with joined := m.joined ++ [i] } := after_join hapart hi out
    refine ⟨⟨.resolve _, .resolve _, .join i hformed hi hnew, trivial⟩, .inr hafter, ?_⟩
    intro _ _
    rw [afterAll_cons, after_of_not_worked (by rfl), afterAll_cons, after_of_not_worked (by rfl),
      afterAll_cons, afterAll_nil]
    exact hafter ▸ List.mem_append_right _ (List.mem_singleton_self i)

/-- The followers one after the other.  The table stays as it was read, so what it
says about a follower still holds when its turn comes. -/
theorem orderly_of_attachments (hapart : site.Apart) {indices : List Nat}
    (hnodup : indices.Nodup) (hindices : ∀ i ∈ indices, i < site.target.followers)
    (hpaired : ∀ i ∈ indices, i < site.target.leaders)
    {results : List Attachment} (hformed : m.formed = true)
    (hlists : ∀ i ∈ indices,
      (table.lists (site.address .follower i).host = true ↔ i ∈ m.joined))
    (h : (Program.each (attach site.tools site.target table) indices).Yields log results)
    (hfits : site.Fits m log) :
    site.Orderly m log ∧ (∀ j ∈ m.joined, j ∈ (site.afterAll m log).joined) ∧
      ((∀ e ∈ log, failed e = false) → ∀ i ∈ indices, i ∈ (site.afterAll m log).joined) := by
  induction indices generalizing m log results with
  | nil =>
    obtain ⟨rfl, -⟩ := Program.yields_each_nil.mp h
    exact ⟨trivial, fun _ hj => hj, fun _ i hi => absurd hi List.not_mem_nil⟩
  | cons i rest ih =>
    obtain ⟨first, second, b, more, rfl, rfl, hfirst, hsecond⟩ := Program.yields_each_cons.mp h
    obtain ⟨hnew, hnodup⟩ := List.nodup_cons.mp hnodup
    obtain ⟨hi, hindices⟩ := List.forall_mem_cons.mp hindices
    obtain ⟨hleader, hpaired⟩ := List.forall_mem_cons.mp hpaired
    obtain ⟨hlisti, hlists⟩ := List.forall_mem_cons.mp hlists
    obtain ⟨hfits, hfitsrest⟩ := along_append.mp hfits
    obtain ⟨hord, hafter, hcalmi⟩ :=
      orderly_of_attached hapart hformed hi hlisti (attached_of_yields hfirst) hfits
    have hformed' : (site.afterAll m first).formed = true := by
      rcases hafter with h | h <;> rw [h] <;> exact hformed
    -- The table was read before the first of them, so it must still be right about the
    -- others once `i` may have been attached.
    have hothers : ∀ j, j ≠ i → (j ∈ (site.afterAll m first).joined ↔ j ∈ m.joined) := by
      intro j hj
      rcases hafter with h | h <;> rw [h]
      rw [List.mem_append, List.mem_singleton, or_iff_left hj]
    have hkept : ∀ j ∈ m.joined, j ∈ (site.afterAll m first).joined := by
      intro j hj
      rcases hafter with h | h <;> rw [h]
      · exact hj
      · exact List.mem_append_left _ hj
    have hlists' : ∀ j ∈ rest, (table.lists (site.address .follower j).host = true ↔
        j ∈ (site.afterAll m first).joined) := by
      intro j hj
      rw [hlists j hj, hothers j fun h => hnew (h ▸ hj)]
    obtain ⟨hordrest, hkeptrest, hcalmrest⟩ :=
      ih hnodup hindices hpaired hformed' hlists' hsecond hfitsrest
    rw [afterAll_append]
    refine ⟨along_append.mpr ⟨hord, hordrest⟩, fun j hj => hkeptrest j (hkept j hj), ?_⟩
    intro hcalm
    obtain ⟨hcalmfirst, hcalmsecond⟩ := List.forall_mem_append.mp hcalm
    rw [List.forall_mem_cons]
    exact ⟨hkeptrest i (hcalmi hleader hcalmfirst), hcalmrest hcalmsecond⟩

/-! ## One pass -/

/-- A pass over the cluster in a membership.  All pods are ready, and some leader
tells its table. -/
structure Round (site : Site) (m : Membership) (log : Log) (report : Report) : Prop where
  ran : ∃ ready : ReadyCounts, ready.meet site.target = true ∧
    (pass site.tools site.target ready).Yields log report
  fits : site.Fits m log
  told : ∃ e ∈ log, toldTable? e ≠ none

theorem mem_witnesses (hleaders : 2 ≤ site.target.leaders) {pod : PodName}
    (h : pod ∈ witnesses site.target) :
    ∃ own < site.target.leaders, pod = site.target.pod .leader own := by
  obtain ⟨own, hown, rfl⟩ := List.mem_map.mp h
  have hlt : own < max site.target.leaders 1 := List.mem_range.mp hown
  exact ⟨own, by omega, rfl⟩

/-- What a pass over a cluster comes to: it reads a table of the membership at its
start and takes the step that is due. -/
inductive Went (site : Site) (m : Membership) : Log → Report → Prop
  | went {own : Nat} {table : Snapshot} {seen acted : Log} {result : Bool × String}
      {report : Report} : (∀ e ∈ seen, site.Quiet e) →
    (∀ e ∈ seen, e.query.isCommand = false) → site.Tells m own table →
    Took site.tools site.target table (m.due site.target.followers) acted result →
    site.Fits m acted → report.outcome = (m.due site.target.followers).outcome →
    report.succeeded = result.1 → Went site m (seen ++ acted) report

theorem went_of_round (hleaders : 2 ≤ site.target.leaders)
    (hsound : m.Sound site.target.followers) {report : Report} (h : site.Round m log report) :
    site.Went m log report := by
  obtain ⟨⟨ready, hready, hyields⟩, hfits, ⟨e, hmem, htable⟩⟩ := h
  cases passed_of_yields hyields with
  | waiting hnot => exact absurd hready (Bool.eq_false_iff.mp hnot)
  | @looked seen acted table result _ hseen hacted =>
    obtain ⟨hfitsseen, hfitsacted⟩ := along_append.mp hfits
    have hquiet : ∀ e ∈ seen, site.Quiet e :=
      fun e he => quiet_of_reads (reads_of_observed hseen e he)
    have hplain : ∀ e ∈ seen, e.query.isCommand = false := by
      intro e he
      cases reads_of_observed hseen e he <;> rfl
    have htold : ∃ e ∈ seen, toldTable? e ≠ none := by
      refine ⟨e, (List.mem_append.mp hmem).resolve_right fun hlate => ?_, htable⟩
      exact htable (asks_of_took hacted e hlate).toldTable?_eq_none
    obtain ⟨own, htells⟩ :=
      tells_of_observed hseen (fun pod hpod => mem_witnesses hleaders hpod) hfitsseen htold
    have hstep := htells.decideStep_eq hleaders hsound
    rw [afterAll_of_all_quiet hquiet] at hfitsacted
    rw [hstep] at hacted
    exact .went hquiet hplain htells hacted hfitsacted (congrArg Step.outcome hstep) rfl

theorem outcome_of_round (hleaders : 2 ≤ site.target.leaders)
    (hsound : m.Sound site.target.followers) {report : Report} (h : site.Round m log report) :
    report.outcome = (m.due site.target.followers).outcome := by
  cases went_of_round hleaders hsound h with
  | went _ _ _ _ _ houtcome => exact houtcome

/-- When nothing is due the pass reads the table and that is all. -/
theorem quiet_of_round (hleaders : 2 ≤ site.target.leaders)
    (hsound : m.Sound site.target.followers) {report : Report} (h : site.Round m log report)
    (hdue : m.due site.target.followers = .none) :
    report.succeeded = true ∧ ∀ e ∈ log, e.query.isCommand = false := by
  cases went_of_round hleaders hsound h with
  | went _ hplain _ hacted _ _ hsucceeded =>
    rw [hdue] at hacted
    cases hacted
    rw [List.append_nil]
    exact ⟨hsucceeded, hplain⟩

theorem orderly_of_round (hleaders : 2 ≤ site.target.leaders)
    (hfollowers : site.target.followers ≤ site.target.leaders) (hapart : site.Apart)
    (hsound : m.Sound site.target.followers) {report : Report} (h : site.Round m log report) :
    site.Orderly m log ∧
      (m.formed = false → (∀ e ∈ log, failed e = false) → (site.afterAll m log).formed = true) ∧
      (m.formed = true → (∀ e ∈ log, failed e = false) →
        ∀ i < site.target.followers, i ∈ (site.afterAll m log).joined) := by
  obtain @⟨own, table, seen, acted, result, report, hquiet, -, htells, hacted, hfits, -, -⟩ :=
    went_of_round hleaders hsound h
  have hseen := afterAll_of_all_quiet (m := m) hquiet
  rw [Orderly, along_append, afterAll_append, hseen]
  refine and_assoc.mpr ⟨orderly_of_quiet hquiet, ?_⟩
  simp only [List.forall_mem_append]
  cases hdue : m.due site.target.followers with
  | none =>
    obtain ⟨hformed, hall⟩ := Membership.due_eq_none_iff.mp hdue
    rw [hdue] at hacted
    cases hacted
    refine ⟨trivial, fun hnot => absurd hformed (Bool.eq_false_iff.mp hnot), ?_⟩
    exact fun _ _ i hi => hsound.mem_of_length hall hi
  | bootstrap =>
    have hformed := Membership.due_eq_bootstrap_iff.mp hdue
    rw [hdue] at hacted
    have hboot : ∃ result, Bootstrapped site.tools site.target acted result := by
      cases hacted with
      | formed hlog => exact ⟨_, hlog⟩
      | unformed hlog => exact ⟨_, hlog⟩
    obtain ⟨result, hlog⟩ := hboot
    obtain ⟨hord, hcalm⟩ := orderly_of_bootstrapped hlog hformed hfits
    refine ⟨hord, fun _ h => hcalm h.2, ?_⟩
    exact fun htrue => absurd htrue (Bool.eq_false_iff.mp hformed)
  | attachFollowers =>
    obtain ⟨hformed, -⟩ := Membership.due_eq_attachFollowers_iff.mp hdue
    rw [hdue] at hacted
    cases hacted with
    | attached hlog =>
      have hbound : ∀ i ∈ List.range site.target.followers, i < site.target.followers :=
        fun i hi => List.mem_range.mp hi
      obtain ⟨hord, -, hcalm⟩ := orderly_of_attachments hapart List.nodup_range hbound
        (fun i hi => Nat.lt_of_lt_of_le (hbound i hi) hfollowers) hformed
        (fun i hi => htells.lists_follower_iff hapart hsound hformed (hbound i hi)) hlog hfits
      refine ⟨hord, fun hnot => absurd hformed (Bool.eq_false_iff.mp hnot), ?_⟩
      exact fun _ h i hi => hcalm h.2 i (List.mem_range.mpr hi)
  | failover => exact absurd hdue Membership.due_ne_failover

end Site
end Node
end RedisKeeper
