import Mathlib.Data.List.Induction
import RedisKeeper.Proofs.Resource.Conditions

/-
Conditions that are set again and again.

What is stored for an aspect depends only on what has been set for that aspect, the
condition at the start included (`about`).  It is the last that was set, with the time of
the first of those that follow one another up to it with one status (`SteadySince`,
`tells_setAll`).  Where an aspect stands in the list is settled when it is first set
(`map_aspect_setAll`).
-/
namespace RedisKeeper
namespace Conditions

variable {new c : Condition} {cs initial : Conditions} {sets : List Condition} {aspect : String}

/-- The list after some conditions have been set, one after the other. -/
def setAll (cs : Conditions) (sets : List Condition) : Conditions :=
  sets.foldl (fun cs new => cs.set new) cs

/-- The list after some builds, each of which starts from what the one before it stored. -/
def afterBuilds (cs : Conditions) (builds : List (List Condition)) : Conditions :=
  builds.foldl setAll cs

theorem afterBuilds_eq (cs : Conditions) (builds : List (List Condition)) :
    afterBuilds cs builds = setAll cs builds.flatten :=
  List.foldl_flatten.symm

theorem setAll_concat : setAll cs (sets ++ [new]) = (setAll cs sets).set new := by
  rw [setAll, List.foldl_append]
  rfl

/-! ## Where conditions stand -/

theorem Distinct.setAll (h : cs.Distinct) : (setAll cs sets).Distinct := by
  induction sets using List.reverseRecOn with
  | nil => exact h
  | append_singleton sets new ih =>
    rw [setAll_concat]
    exact ih.set

/-- Only the first occurrence of an element counts. -/
theorem eraseDups_concat (texts : List String) (s : String) :
    (texts ++ [s]).eraseDups =
      if s ∈ texts then texts.eraseDups else texts.eraseDups ++ [s] := by
  rw [List.eraseDups_append]
  split
  · rename_i hmem
    simp [List.removeAll, hmem]
  · rename_i hnew
    simp [List.removeAll, hnew, List.eraseDups_cons]

/-- New aspects stand behind the others, in the order in which they were first set. -/
theorem map_aspect_setAll :
    (setAll cs sets).map Condition.aspect =
      cs.map Condition.aspect ++
        ((sets.map Condition.aspect).filter (· ∉ cs.map Condition.aspect)).eraseDups := by
  induction sets using List.reverseRecOn with
  | nil => simp [setAll]
  | append_singleton sets new ih =>
    rw [setAll_concat, map_aspect_set, ih, List.map_append, List.map_singleton, List.filter_append]
    -- An aspect was there before, or has been set since, or stands behind all others.
    generalize cs.map Condition.aspect = old
    by_cases hold : new.aspect ∈ old
    · rw [if_pos (List.mem_append_left _ hold), List.filter_cons_of_neg (by simpa using hold),
        List.filter_nil, List.append_nil]
    · rw [List.filter_cons_of_pos (by simpa using hold), List.filter_nil, eraseDups_concat]
      by_cases hset : new.aspect ∈ (sets.map Condition.aspect).filter (· ∉ old)
      · rw [if_pos (List.mem_append_right _ (List.mem_eraseDups.mpr hset)), if_pos hset]
      · have hnew : new.aspect ∉ old ++ ((sets.map Condition.aspect).filter (· ∉ old)).eraseDups :=
          fun h => (List.mem_append.mp h).elim hold fun h => hset (List.mem_eraseDups.mp h)
        rw [if_neg hnew, if_neg hset, List.append_assoc]

/-- A condition for an aspect that is not set stays what and where it is. -/
theorem getElem?_setAll_iff (h : c.aspect ∉ sets.map Condition.aspect) (i : Nat) :
    (setAll cs sets)[i]? = some c ↔ cs[i]? = some c := by
  induction sets using List.reverseRecOn with
  | nil => exact Iff.rfl
  | append_singleton sets new ih =>
    rw [List.map_append, List.mem_append, not_or, List.map_singleton, List.mem_singleton] at h
    rw [setAll_concat, getElem?_set_iff h.2, ih h.1]

/-! ## What is stored for an aspect -/

/-- The condition that is found for an aspect, once another one has been set, follows the one
that was found before. -/
theorem find?_set_eq (new : Condition) (cs : Conditions) :
    (cs.set new).find? new.aspect = some ((cs.find? new.aspect).elim new (follow · new)) := by
  induction cs with
  | nil => simp [set, find?]
  | cons old rest ih =>
    by_cases h : old.aspect = new.aspect
    · simp [set, find?, h]
    · simpa [set, find?, h] using ih

/-- The conditions for an aspect. -/
def about (aspect : String) (cs : List Condition) : List Condition :=
  cs.filter (·.aspect = aspect)

theorem Distinct.about_eq (h : cs.Distinct) : about aspect cs = (cs.find? aspect).toList := by
  induction cs with
  | nil => rfl
  | cons c rest ih =>
    obtain ⟨hnew, hrest⟩ := List.nodup_cons.mp h
    by_cases hc : c.aspect = aspect
    · have hnone : about aspect rest = [] := by
        refine List.filter_eq_nil_iff.mpr fun d hd hsame => hnew ?_
        rw [hc, ← of_decide_eq_true hsame]
        exact List.mem_map_of_mem hd
      rw [about] at hnone
      simp [about, find?, hc, hnone]
    · have hrest := ih hrest
      rw [about, find?] at hrest
      simp [about, find?, hc, hrest]

/-- Whether the conditions of a history have had one status from `first` up to `last`, which
is the end of the history, and another one before. -/
def SteadySince (history : List Condition) (first last : Condition) : Prop :=
  ∃ earlier later, history = earlier ++ first :: later ∧
    (first :: later).getLast? = some last ∧
    (∀ c ∈ first :: later, c.status = last.status) ∧
    ∀ c ∈ earlier.getLast?, c.status ≠ last.status

variable {history : List Condition} {first last : Condition}

theorem SteadySince.getLast?_eq (h : SteadySince history first last) :
    history.getLast? = some last := by
  obtain ⟨earlier, later, rfl, hlast, -⟩ := h
  rw [List.getLast?_append, hlast, Option.some_or]

theorem SteadySince.concat_same (h : SteadySince history first last)
    (hsame : last.status = new.status) : SteadySince (history ++ [new]) first new := by
  obtain ⟨earlier, later, rfl, -, hstretch, hearlier⟩ := h
  refine ⟨earlier, later ++ [new], by rw [List.append_assoc]; rfl, ?_, ?_, ?_⟩
  · rw [← List.cons_append, List.getLast?_concat]
  · rw [← List.cons_append, List.forall_mem_append, List.forall_mem_singleton]
    exact ⟨fun c hc => (hstretch c hc).trans hsame, rfl⟩
  · intro c hc
    rw [← hsame]
    exact hearlier c hc

theorem steadySince_concat_self (h : ∀ c ∈ history.getLast?, c.status ≠ new.status) :
    SteadySince (history ++ [new]) new new :=
  ⟨history, [], rfl, rfl, List.forall_mem_singleton.mpr rfl, h⟩

/-- Where only what stands behind a part differs in status from all of it, the part is empty. -/
theorem eq_nil_of_steady {earlier part stretch : List Condition} {status : String}
    (hstretch : ∀ c ∈ part ++ stretch, c.status = status)
    (hbefore : ∀ c ∈ (earlier ++ part).getLast?, c.status ≠ status) : part = [] := by
  rcases List.eq_nil_or_concat part with rfl | ⟨front, c, rfl⟩
  · rfl
  · exact absurd (hstretch c (by simp)) (hbefore c (by simp))

/-- A history has only one condition since which its status has been the same. -/
theorem SteadySince.unique {first' last' : Condition} (h : SteadySince history first last)
    (h' : SteadySince history first' last') : first = first' := by
  obtain rfl : last = last' := Option.some.inj (h.getLast?_eq.symm.trans h'.getLast?_eq)
  obtain ⟨earlier, later, rfl, -, hstretch, hearlier⟩ := h
  obtain ⟨earlier', later', hsplit, -, hstretch', hearlier'⟩ := h'
  rcases List.append_eq_append_iff.mp hsplit with ⟨part, rfl, hpart⟩ | ⟨part, rfl, hpart⟩
  · rw [hpart] at hstretch
    obtain rfl := eq_nil_of_steady hstretch hearlier'
    exact (List.cons.inj hpart).1
  · rw [hpart] at hstretch'
    obtain rfl := eq_nil_of_steady hstretch' hearlier
    exact (List.cons.inj hpart).1.symm

/-- Whether what is found for an aspect is what a history of that aspect leaves: the last
condition, with the time since when its status has been the same. -/
def Tells (history : List Condition) : Option Condition → Prop
  | none => history = []
  | some kept => ∃ first last, SteadySince history first last ∧
    kept = { last with lastTransitionTime := first.lastTransitionTime }

theorem tells_toList (found : Option Condition) : Tells found.toList found := by
  cases found with
  | none => rfl
  | some c =>
    have hsince : SteadySince ([] ++ [c]) c c := steadySince_concat_self nofun
    exact ⟨c, c, hsince, rfl⟩

/-- What follows what was found is what the longer history leaves. -/
theorem Tells.concat {found : Option Condition} (h : Tells history found) :
    Tells (history ++ [new]) (some (found.elim new (follow · new))) := by
  cases found with
  | none =>
    obtain rfl : history = [] := h
    exact ⟨new, new, steadySince_concat_self nofun, rfl⟩
  | some kept =>
    obtain ⟨first, last, hsince, rfl⟩ := h
    rw [Option.elim_some]
    by_cases hsame : last.status = new.status
    · exact ⟨first, new, hsince.concat_same hsame, if_pos hsame⟩
    · have hlast : ∀ c ∈ history.getLast?, c.status ≠ new.status := by
        rw [hsince.getLast?_eq]
        rintro c ⟨⟩
        exact hsame
      exact ⟨new, new, steadySince_concat_self hlast, if_neg hsame⟩

theorem tells_setAll (h : initial.Distinct) :
    Tells (about aspect (initial ++ sets)) ((setAll initial sets).find? aspect) := by
  induction sets using List.reverseRecOn with
  | nil =>
    rw [List.append_nil, h.about_eq]
    exact tells_toList _
  | append_singleton sets new ih =>
    rw [setAll_concat, ← List.append_assoc, about, List.filter_append]
    by_cases hnew : new.aspect = aspect
    · subst hnew
      rw [find?_set_eq]
      have hfollows : Tells (about new.aspect (initial ++ sets) ++ [new])
          (some (((setAll initial sets).find? new.aspect).elim new (follow · new))) := ih.concat
      simpa [about] using hfollows
    · -- A condition for another aspect adds nothing to the history.
      rw [find?_set_ne (Ne.symm hnew)]
      simpa [about, hnew] using ih

/-- However often conditions are set, and from however many stored lists in between: no two
are for one aspect, those that were there stay where they are, and new ones stand behind
them in the order in which they were first set.  One that is not set stays as it is.  Of one
that is set, all is as it was last set, apart from the time, which is that of the earliest
condition since which its status has been the same. -/
theorem conditions_over_builds (h : initial.Distinct) (builds : List (List Condition)) :
    (afterBuilds initial builds).Distinct ∧
    (afterBuilds initial builds).map Condition.aspect =
      initial.map Condition.aspect ++ ((builds.flatten.map Condition.aspect).filter
        (· ∉ initial.map Condition.aspect)).eraseDups ∧
    (∀ c : Condition, c.aspect ∉ builds.flatten.map Condition.aspect → ∀ i : Nat,
      (afterBuilds initial builds)[i]? = some c ↔ initial[i]? = some c) ∧
    ∀ aspect last, (about aspect builds.flatten).getLast? = some last →
      ∃ first, SteadySince (about aspect (initial ++ builds.flatten)) first last ∧
        (afterBuilds initial builds).find? aspect =
          some { last with lastTransitionTime := first.lastTransitionTime } := by
  rw [afterBuilds_eq]
  refine ⟨h.setAll, map_aspect_setAll, fun c hc i => getElem?_setAll_iff hc i, ?_⟩
  intro aspect last hlast
  have hend : (about aspect (initial ++ builds.flatten)).getLast? = some last := by
    rw [about, List.filter_append, List.getLast?_append]
    exact congrArg (Option.or · _) hlast
  have htells : Tells (about aspect (initial ++ builds.flatten))
      ((setAll initial builds.flatten).find? aspect) := tells_setAll h
  cases hfound : (setAll initial builds.flatten).find? aspect with
  | none =>
    rw [hfound] at htells
    rw [show about aspect (initial ++ builds.flatten) = [] from htells] at hend
    exact absurd hend nofun
  | some kept =>
    rw [hfound] at htells
    obtain ⟨first, last', hsince, rfl⟩ := htells
    obtain rfl : last' = last := Option.some.inj (hsince.getLast?_eq.symm.trans hend)
    exact ⟨first, hsince, rfl⟩

/-- What is stored about an instance that is ready and has been paused by its user. -/
def pausedConditions : Conditions :=
  [⟨"Paused", "Unknown", "User", "", "2023-12-31T00:00:00Z", none⟩,
    ⟨"Ready", "True", "Ready", "Instance is ready", "2024-01-01T00:00:00Z", some 1⟩]

/-- Readiness is lost in the second of three builds and said to be lost in the third. -/
def lossBuilds : List (List Condition) :=
  [[⟨"Ready", "True", "Ready", "Instance is ready", "2024-01-02T00:00:00Z", some 2⟩,
      ⟨"Degraded", "False", "Healthy", "", "2024-01-02T00:00:00Z", some 2⟩],
    [⟨"Ready", "False", "Restarting", "0 of 1", "2024-01-03T00:00:00Z", some 2⟩,
      ⟨"Progressing", "True", "Healing", "", "2024-01-03T00:00:00Z", some 2⟩],
    [⟨"Ready", "False", "Waiting", "0 of 1", "2024-01-04T00:00:00Z", some 3⟩]]

theorem conditions_over_builds_loss :
    pausedConditions.Distinct ∧
      (afterBuilds pausedConditions lossBuilds).map Condition.aspect =
        ["Paused", "Ready", "Degraded", "Progressing"] ∧
      (afterBuilds pausedConditions lossBuilds).find? "Ready" =
        some ⟨"Ready", "False", "Waiting", "0 of 1", "2024-01-03T00:00:00Z", some 3⟩ := by
  have hdistinct : pausedConditions.Distinct := by
    unfold Distinct
    decide
  obtain ⟨-, haspects, -, hset⟩ := conditions_over_builds hdistinct lossBuilds
  obtain ⟨first, hsince, hfound⟩ := hset "Ready"
    ⟨"Ready", "False", "Waiting", "0 of 1", "2024-01-04T00:00:00Z", some 3⟩ (by decide +kernel)
  have hlost : SteadySince (about "Ready" (pausedConditions ++ lossBuilds.flatten))
      ⟨"Ready", "False", "Restarting", "0 of 1", "2024-01-03T00:00:00Z", some 2⟩
      ⟨"Ready", "False", "Waiting", "0 of 1", "2024-01-04T00:00:00Z", some 3⟩ := by
    refine ⟨(about "Ready" (pausedConditions ++ lossBuilds.flatten)).take 2,
      [⟨"Ready", "False", "Waiting", "0 of 1", "2024-01-04T00:00:00Z", some 3⟩], ?_⟩
    decide +kernel
  rw [hsince.unique hlost] at hfound
  exact ⟨hdistinct, haspects.trans (by decide +kernel), hfound⟩

end Conditions
end RedisKeeper
