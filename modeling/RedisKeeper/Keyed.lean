/-
Entries under text keys, held as a list in increasing key order.

A look-up reads what `place` wrote and nothing else (`lookup_place_self`,
`lookup_place_ne`), and `place` and `without` keep the order (`sorted_place`,
`sorted_without`).
-/
namespace RedisKeeper
namespace Keyed

variable {α : Type}

/-- Keys increase strictly, so each occurs once. -/
def Sorted (entries : List (String × α)) : Prop :=
  entries.Pairwise fun a b => a.1 < b.1

/-- Puts a value under a key, in place of the one that was there or else before
the first larger key. -/
def place (key : String) (value : α) : List (String × α) → List (String × α)
  | [] => [(key, value)]
  | (k, v) :: rest =>
    if k = key then (key, value) :: rest
    else if key < k then (key, value) :: (k, v) :: rest
    else (k, v) :: place key value rest

/-- The entries under other keys. -/
def without (key : String) (entries : List (String × α)) : List (String × α) :=
  entries.filter fun entry => entry.1 ≠ key

/-- A look-up goes on behind a first entry with another key. -/
theorem lookup_cons {κ : Type} [DecidableEq κ] (key : κ) (entry : κ × α) (rest : List (κ × α)) :
    (entry :: rest).lookup key = if entry.1 = key then some entry.2 else rest.lookup key := by
  rw [List.lookup_cons]
  by_cases h : entry.1 = key
  · simp [h]
  · rw [if_neg h, beq_false_of_ne (Ne.symm h)]

@[simp] theorem lookup_place_self (key : String) (value : α) (entries : List (String × α)) :
    (place key value entries).lookup key = some value := by
  induction entries with
  | nil => simp [place]
  | cons entry rest ih =>
    obtain ⟨k, v⟩ := entry
    simp only [place]
    split
    · simp
    · split
      · simp
      · rename_i h _
        simp [lookup_cons, h, ih]

theorem lookup_place_ne {key other : String} (h : other ≠ key) (value : α)
    (entries : List (String × α)) :
    (place key value entries).lookup other = entries.lookup other := by
  induction entries with
  | nil => simp [place, lookup_cons, Ne.symm h]
  | cons entry rest ih =>
    obtain ⟨k, v⟩ := entry
    simp only [place]
    split
    · rename_i hk
      subst hk
      simp [lookup_cons, Ne.symm h]
    · split
      · simp [lookup_cons, Ne.symm h]
      · simp [lookup_cons, ih]

theorem lookup_without_self (key : String) (entries : List (String × α)) :
    (without key entries).lookup key = none := by
  induction entries with
  | nil => rfl
  | cons entry rest ih =>
    obtain ⟨k, v⟩ := entry
    simp only [without, List.filter_cons, ne_eq, decide_not, Bool.not_eq_eq_eq_not, Bool.not_true,
      decide_eq_false_iff_not]
    split
    · rename_i h
      rw [lookup_cons, if_neg h]
      simpa [without] using ih
    · simpa [without] using ih

theorem lt_of_not_lt_of_ne {a b : String} (h : ¬ a < b) (hne : a ≠ b) : b < a := by
  rcases String.le_total b a with hle | hle
  · exact Classical.byContradiction fun hn =>
      hne (String.le_antisymm (String.not_lt.1 hn) hle)
  · exact absurd (String.le_antisymm hle (String.not_lt.1 h)) hne

theorem mem_place {key : String} {value : α} {entries : List (String × α)}
    {entry : String × α} (h : entry ∈ place key value entries) :
    entry = (key, value) ∨ entry ∈ entries := by
  induction entries with
  | nil => exact .inl (by simpa [place] using h)
  | cons first rest ih =>
    obtain ⟨k, v⟩ := first
    simp only [place] at h
    split at h
    · rcases List.mem_cons.1 h with h | h
      · exact .inl h
      · exact .inr (List.mem_cons_of_mem _ h)
    · split at h
      · rcases List.mem_cons.1 h with h | h
        · exact .inl h
        · exact .inr h
      · rcases List.mem_cons.1 h with h | h
        · exact .inr (h ▸ List.mem_cons_self)
        · exact (ih h).imp id (List.mem_cons_of_mem _)

theorem sorted_place (key : String) (value : α) {entries : List (String × α)}
    (h : Sorted entries) : Sorted (place key value entries) := by
  induction entries with
  | nil => simp [place, Sorted]
  | cons first rest ih =>
    obtain ⟨k, v⟩ := first
    obtain ⟨hfirst, hrest⟩ := List.pairwise_cons.1 h
    simp only [place]
    split
    · rename_i hk
      subst hk
      exact List.pairwise_cons.2 ⟨hfirst, hrest⟩
    · rename_i hne
      split
      · rename_i hlt
        refine List.pairwise_cons.2 ⟨fun entry he => ?_, h⟩
        rcases List.mem_cons.1 he with rfl | he
        · exact hlt
        · exact String.lt_trans hlt (hfirst entry he)
      · rename_i hlt
        refine List.pairwise_cons.2 ⟨fun entry he => ?_, ih hrest⟩
        rcases mem_place he with rfl | he
        · exact lt_of_not_lt_of_ne hlt (Ne.symm hne)
        · exact hfirst entry he

theorem sorted_without (key : String) {entries : List (String × α)} (h : Sorted entries) :
    Sorted (without key entries) :=
  List.Pairwise.filter _ h

end Keyed
end RedisKeeper
