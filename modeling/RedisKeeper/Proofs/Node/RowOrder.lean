import RedisKeeper.Proofs.Node.Log
import RedisKeeper.Proofs.Program.Matching
import RedisKeeper.Proofs.Topology.Table

/-
The order in which a node tells the rows of its table.

Two texts that hold the same lines are read as tables with the same rows
(`Snapshot.sameRows_ofText`), and whatever a pass asks of a table is the same for
tables with the same rows.  So a pass over nodes that tell their lines in another
order is reported in the same words and asks the same (`pass_reordered`).  What
holds of each part of a pass is that it matches itself, given texts in any order,
and any answers to closing a session (`pass_matches_immaterial`).
-/
namespace RedisKeeper

/-! ## Texts with the same lines -/

/-- Whether two texts hold the same lines, in whichever order.  Empty lines do not
count, so it makes no difference whether a line feed stands at the end. -/
def SameLines (a b : String) : Prop :=
  ((Text.cut '\n' a.toList).filter (· ≠ [])).Perm ((Text.cut '\n' b.toList).filter (· ≠ []))

theorem SameLines.of_perm {a b : String}
    (h : (Text.cut '\n' a.toList).Perm (Text.cut '\n' b.toList)) : SameLines a b :=
  h.filter _

theorem sameLines_append_feed (a : String) : SameLines (a ++ "\n") a := by
  have hcut : Text.cut '\n' (a ++ "\n").toList = Text.cut '\n' a.toList ++ [[]] := by
    rw [String.toList_append]
    exact Text.cut_append '\n' a.toList []
  rw [SameLines, hcut, List.filter_append]
  exact List.append_nil _ ▸ List.Perm.refl _

theorem sameLines_join {lines lines' : List (List Char)} (hne : lines ≠ [])
    (hclean : ∀ line ∈ lines, '\n' ∉ line) (h : lines.Perm lines') :
    SameLines (String.ofList (Text.join '\n' lines)) (String.ofList (Text.join '\n' lines')) := by
  have hne' : lines' ≠ [] := by
    intro hnil
    rw [hnil] at h
    exact hne h.eq_nil
  have hclean' : ∀ line ∈ lines', '\n' ∉ line := by
    intro line hline
    exact hclean line (h.symm.subset hline)
  refine .of_perm ?_
  rw [String.toList_ofList, String.toList_ofList, Text.cut_join hne hclean,
    Text.cut_join hne' hclean']
  exact h

namespace Snapshot

/-- Whether two tables have the same rows, in whichever order. -/
def SameRows (s s' : Snapshot) : Prop := s.records.Perm s'.records

/-- An empty line holds no row. -/
theorem recordsOf_eq_filter (text : List Char) :
    recordsOf text = ((Text.cut '\n' text).filter (· ≠ [])).filterMap recordOfLine? := by
  rw [recordsOf, List.filterMap_filter]
  refine List.filterMap_congr fun line _ => ?_
  by_cases hline : line = []
  · rw [hline]
    rfl
  · rw [decide_eq_true hline, if_pos rfl]

theorem sameRows_ofText {a b : String} (h : SameLines a b) :
    (ofText a).SameRows (ofText b) := by
  show (recordsOf a.toList).Perm (recordsOf b.toList)
  rw [recordsOf_eq_filter, recordsOf_eq_filter]
  exact h.filterMap _

variable {s s' : Snapshot}

theorem SameRows.size_eq (h : s.SameRows s') : s.size = s'.size := h.length_eq

theorem SameRows.countRole_eq (h : s.SameRows s') (role : Role) :
    s.countRole role = s'.countRole role :=
  h.countP_eq _

theorem SameRows.countFailing_eq (h : s.SameRows s') : s.countFailing = s'.countFailing :=
  h.countP_eq _

theorem SameRows.lists_eq (h : s.SameRows s') (host : String) : s.lists host = s'.lists host :=
  h.any_eq

theorem SameRows.decideStep_eq (h : s.SameRows s') (leaders followers : Nat) :
    decideStep leaders followers s = decideStep leaders followers s' := by
  rw [decideStep, decideStep, h.size_eq, h.countRole_eq, h.countFailing_eq]

end Snapshot

namespace Node

/-! ## Answers that pass for the same -/

/-- Whether two results are the same failure, or two successes that `Q` relates. -/
inductive SameUpTo {ε α : Type} (Q : α → α → Prop) : Except ε α → Except ε α → Prop
  | error (e : ε) : SameUpTo Q (.error e) (.error e)
  | ok {a b : α} : Q a b → SameUpTo Q (.ok a) (.ok b)

/-- A node may tell the lines of its table in any order.  Nothing else may differ. -/
def Reordered : (query : Query) → query.Answer → query.Answer → Prop
  | .store (.nodes _), told, told' => SameUpTo SameLines told told'
  | _, answer, answer' => answer = answer'

/-- What makes no difference to a pass: nodes may tell the lines of their tables in any
order, and it does not matter what closing a session is answered. -/
def Immaterial : (query : Query) → query.Answer → query.Answer → Prop
  | .store (.nodes _), told, told' => SameUpTo SameLines told told'
  | .store (.close _), _, _ => True
  | _, answer, answer' => answer = answer'

theorem Reordered.immaterial {query : Query} {answer answer' : query.Answer}
    (h : Reordered query answer answer') : Immaterial query answer answer' := by
  cases query with
  | resolve => exact h
  | execute => exact h
  | store call =>
    cases call with
    | close => exact trivial
    | nodes => exact h
    | connect => exact h
    | reset => exact h
    | flush => exact h

theorem Immaterial.eq_of_not_isCall {query : Query} (hquery : query.isCall = false)
    {answer answer' : query.Answer} (h : Immaterial query answer answer') : answer = answer' := by
  cases query with
  | resolve => exact h
  | execute => exact h
  | store => exact absurd hquery.symm Bool.false_ne_true

variable {tools : Tools} {tcp : UInt16} {t : Target} {table table' : Snapshot}

/-! ## Reading the table -/

theorem inspect_matches (tcp : UInt16) (pod : PodName) :
    Program.Matches Immaterial (SameUpTo Snapshot.SameRows) (inspect tcp pod)
      (inspect tcp pod) := by
  refine .ask _ fun resolving _ hresolving => ?_
  obtain rfl := hresolving
  cases resolving with
  | error e => exact .done (.error e)
  | ok address =>
    refine .ask _ fun opening _ hopening => ?_
    obtain rfl := hopening
    cases opening with
    | error e => exact .done (.error _)
    | ok _ =>
      refine .ask _ fun told told' htold => ?_
      refine .ask _ fun _ _ _ => ?_
      cases htold with
      | error e => exact .done (.error _)
      | ok htext => exact .done (.ok (Snapshot.sameRows_ofText htext))

theorem firstTable_matches (tcp : UInt16) (pods : List PodName) :
    Program.Matches Immaterial Snapshot.SameRows (firstTable tcp pods) (firstTable tcp pods) := by
  induction pods with
  | nil => exact .done (List.Perm.refl _)
  | cons pod pods ih =>
    refine (inspect_matches tcp pod).bind fun seen seen' hseen => ?_
    cases hseen with
    | error e => exact ih
    | ok hrows => exact .done hrows

/-! ## Taking a step -/

theorem resetNode_matches (tcp : UInt16) (pod : PodName) :
    Program.Matches Immaterial Eq (resetNode tcp pod) (resetNode tcp pod) := by
  refine .ask _ fun resolving _ hresolving => ?_
  obtain rfl := hresolving
  cases resolving with
  | error e => exact .done rfl
  | ok address =>
    refine .ask _ fun opening _ hopening => ?_
    obtain rfl := hopening
    cases opening with
    | error e => exact .done rfl
    | ok _ =>
      refine .ask _ fun resetting _ hresetting => ?_
      obtain rfl := hresetting
      cases resetting with
      | ok _ => exact .ask _ fun _ _ _ => .done rfl
      | error e =>
        refine .ask _ fun flushing _ hflushing => ?_
        obtain rfl := hflushing
        cases flushing with
        | ok _ => exact .ask _ fun _ _ _ => .done rfl
        | error e' => exact .ask _ fun _ _ _ => .done rfl

theorem take_matches (tools : Tools) (t : Target) (table : Snapshot) (step : Step) :
    Program.Matches Immaterial Eq (take tools t table step) (take tools t table step) := by
  by_cases hstep : step = .failover
  · subst hstep
    have hall : Program.Matches Immaterial Eq (resetAll tools.tcp t) (resetAll tools.tcp t) :=
      (Program.Matches.each (resetNode_matches tools.tcp) _).bind
        fun _ _ hresults => .done (congrArg _ hresults)
    exact hall.bind fun _ _ htally => .done (by rw [htally])
  · -- Every other step calls no nodes, so the answers to it are equal.
    exact (offline_take tools t table hstep).matches_self
      fun _ hquery _ _ => Immaterial.eq_of_not_isCall hquery

/-- A step depends on the table only through its size and the hosts that it lists. -/
theorem take_eq_of_sameRows (h : table.SameRows table') (step : Step) :
    take tools t table step = take tools t table' step := by
  have hattach : attach tools t table = attach tools t table' := by
    funext index
    simp only [attach, h.lists_eq]
  cases step with
  | none => rw [take, take, h.size_eq]
  | bootstrap => rfl
  | attachFollowers => rw [take, take, attachAll, attachAll, hattach]
  | failover => rfl

/-! ## The pass as a whole -/

theorem pass_matches_immaterial (tools : Tools) (t : Target) (ready : ReadyCounts) :
    Program.Matches Immaterial Eq (pass tools t ready) (pass tools t ready) := by
  rw [pass]
  split
  · refine (firstTable_matches tools.tcp (witnesses t)).bind fun table table' hrows => ?_
    have hstep := hrows.decideStep_eq t.leaders t.followers
    have htake : Program.Matches Immaterial Eq
        (take tools t table (decideStep t.leaders t.followers table))
        (take tools t table' (decideStep t.leaders t.followers table')) := by
      rw [← hstep, ← take_eq_of_sameRows hrows]
      exact take_matches tools t table _
    refine htake.bind fun result result' hresult => .done ?_
    rw [hresult, hstep, hrows.size_eq, hrows.countFailing_eq]
  · exact .done rfl

theorem pass_matches (tools : Tools) (t : Target) (ready : ReadyCounts) :
    Program.Matches Reordered Eq (pass tools t ready) (pass tools t ready) :=
  (pass_matches_immaterial tools t ready).mono fun _ _ _ => Reordered.immaterial

/-- In two worlds that differ only in the order in which nodes tell the lines of their
tables, a pass is reported alike and asks the same. -/
theorem pass_reordered (tools : Tools) (t : Target) (ready : ReadyCounts) {σ τ : Type}
    {R : σ → τ → Prop} {w : Responder interface σ} {w' : Responder interface τ}
    (hw : Program.Alike Reordered R w w') {s : σ} {s' : τ} (hs : R s s') :
    let run := (pass tools t ready).runLogged w s
    let run' := (pass tools t ready).runLogged w' s'
    run.1 = run'.1 ∧ run.2.1.map (·.query) = run'.2.1.map (·.query) :=
  (pass_matches tools t ready).runLogged hw hs

/-- A world without failures in which every node has one address and tells one text. -/
def telling (text : String) : Responder interface Unit
  | .resolve _, s => (.ok (.v4 ⟨10, 0, 0, 9⟩), s)
  | .execute _ _, s => (.ok ⟨"", ""⟩, s)
  | .store (.nodes _), s => (.ok text, s)
  | .store (.connect _ _), s | .store (.reset _), s | .store (.flush _), s
  | .store (.close _), s => (.ok (), s)

theorem alike_telling {a b : String} (h : SameLines a b) :
    Program.Alike Reordered Eq (telling a) (telling b) := by
  intro query s s' _
  refine ⟨?_, rfl⟩
  cases query with
  | resolve => rfl
  | execute => rfl
  | store call =>
    cases call with
    | nodes => exact .ok h
    | connect => rfl
    | reset => rfl
    | flush => rfl
    | close => rfl

/-- A row that ends in a carriage return, one without an id, one that is cut short, an
empty line and a blank one. -/
def mixedLines : List (List Char) :=
  ["a1 10.0.0.1:6379 master\r", " 10.0.0.3:6379", "a2 10.0.0.2:6379 master", "", " \t"].map
    String.toList

theorem pass_reordered_mixedLines :
    let told := String.ofList (Text.join '\n' mixedLines)
    let told' := String.ofList (Text.join '\n' mixedLines.reverse) ++ "\n"
    let run := (pass ⟨"redis-cli", 6379⟩ ⟨"cache", "prod", 2, 1⟩ ⟨2, 1⟩).runLogged (telling told) ()
    let run' :=
      (pass ⟨"redis-cli", 6379⟩ ⟨"cache", "prod", 2, 1⟩ ⟨2, 1⟩).runLogged (telling told') ()
    told ≠ told' ∧ run.1.step = .attachFollowers ∧
      run.1 = run'.1 ∧ run.2.1.map (·.query) = run'.2.1.map (·.query) := by
  have hreversed : SameLines (String.ofList (Text.join '\n' mixedLines))
      (String.ofList (Text.join '\n' mixedLines.reverse)) :=
    sameLines_join (by decide) (by decide) (List.reverse_perm _).symm
  have hlines := hreversed.trans (sameLines_append_feed _).symm
  refine ⟨by decide, by decide +kernel, ?_⟩
  exact pass_reordered _ _ _ (alike_telling hlines) rfl

end Node
end RedisKeeper
