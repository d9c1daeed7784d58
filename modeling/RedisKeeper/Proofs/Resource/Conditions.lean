import Mathlib.Data.List.Nodup
import RedisKeeper.Resource.Condition

/-
Setting a condition.

The condition that is found afterwards is the one that was set, up to the time of its last
transition (`find?_set_self`).  Conditions for other aspects stay what and where they are
(`find?_set_ne`, `getElem?_set_iff`), and where no two were for one aspect none are now
(`Distinct.set`).
-/
namespace RedisKeeper

theorem Condition.statusText_eq_true_iff {holds : Bool} :
    statusText holds = "True" ↔ holds = true := by
  cases holds <;> decide

theorem Condition.statusText_eq_false_iff {holds : Bool} :
    statusText holds = "False" ↔ holds = false := by
  cases holds <;> decide

namespace Conditions

/-- Whether no two conditions are for one aspect. -/
def Distinct (cs : Conditions) : Prop := (cs.map Condition.aspect).Nodup

variable {new c : Condition} {cs : Conditions} {aspect : String}

theorem Distinct.set (h : cs.Distinct) : (Conditions.set new cs).Distinct := by
  rw [Distinct, map_aspect_set]
  split
  · exact h
  · rename_i hnew
    exact List.nodup_append.mpr ⟨h, List.nodup_singleton _, by simpa using hnew⟩

theorem follow_eq (old new : Condition) :
    follow old new = { new with lastTransitionTime := (follow old new).lastTransitionTime } := by
  unfold follow
  split <;> rfl

theorem find?_set_self (new : Condition) (cs : Conditions) :
    ∃ time, (set new cs).find? new.aspect = some { new with lastTransitionTime := time } := by
  induction cs with
  | nil => exact ⟨new.lastTransitionTime, by simp [set, find?]⟩
  | cons old rest ih =>
    by_cases h : old.aspect = new.aspect
    · refine ⟨(follow old new).lastTransitionTime, ?_⟩
      rw [← follow_eq]
      simp [set, find?, h]
    · simpa [set, find?, h] using ih

/-- A condition that is stored as it is to be set, up to the time, stays as it is stored. -/
theorem set_eq_self {time : String}
    (h : cs.find? new.aspect = some { new with lastTransitionTime := time }) :
    set new cs = cs := by
  induction cs with
  | nil => exact absurd h nofun
  | cons old rest ih =>
    by_cases hold : old.aspect = new.aspect
    · simp only [find?, hold, decide_true, List.find?_cons_of_pos, Option.some.injEq] at h
      rw [set, if_pos hold, h, follow, if_pos rfl]
    · simp only [find?, hold, decide_false, Bool.false_eq_true, not_false_eq_true,
        List.find?_cons_of_neg] at h
      rw [set, if_neg hold, ih h]

theorem find?_set_ne (h : aspect ≠ new.aspect) : (set new cs).find? aspect = cs.find? aspect := by
  induction cs with
  | nil => simp [set, find?, Ne.symm h]
  | cons old rest ih =>
    by_cases hold : old.aspect = new.aspect
    · simp [set, find?, hold, Ne.symm h]
    · simp only [set, hold, if_false]
      by_cases haspect : old.aspect = aspect
      · simp [find?, haspect]
      · simpa [find?, haspect] using ih

theorem getElem?_set_iff (h : c.aspect ≠ new.aspect) (i : Nat) :
    (set new cs)[i]? = some c ↔ cs[i]? = some c := by
  have hnew : ∀ d : Condition, d.aspect = new.aspect → d ≠ c :=
    fun d hd heq => h (heq ▸ hd)
  induction cs generalizing i with
  | nil => cases i <;> simp [set, hnew new rfl]
  | cons old rest ih =>
    by_cases hold : old.aspect = new.aspect
    · cases i <;> simp [set, hold, hnew old hold, hnew (follow old new) (follow_aspect old new)]
    · cases i with
      | zero => simp [set, hold]
      | succ i => simpa [set, hold] using ih i

end Conditions
end RedisKeeper
