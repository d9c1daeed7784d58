import Mathlib.Data.List.Basic
import RedisKeeper.Text.Basic

/-
Searching a text that is written between separators.

What does not hold the separator is found on one side of it (`contains_append_cons`),
and what ends in the separator is found in front of it or further on
(`contains_concat_iff`).
-/
namespace RedisKeeper
namespace Text

variable {c : Char} {needle : List Char}

theorem isPrefixOf_append_cons (hc : c ∉ needle) (s t : List Char) :
    needle.isPrefixOf (s ++ c :: t) = needle.isPrefixOf s := by
  induction needle generalizing s with
  | nil => rw [List.isPrefixOf_nil_left, List.isPrefixOf_nil_left]
  | cons x needle ih =>
    obtain ⟨hx, hneedle⟩ := not_or.mp (mt List.mem_cons.mpr hc)
    cases s with
    | nil => simp [List.isPrefixOf, Ne.symm hx]
    | cons y s => simp [List.isPrefixOf, ih hneedle]

theorem contains_cons (hc : c ∉ needle) (hne : needle ≠ []) (s : List Char) :
    contains needle (c :: s) = contains needle s := by
  have hhead : needle.isPrefixOf (c :: s) = false := by
    rw [← List.nil_append (c :: s), isPrefixOf_append_cons hc]
    exact Bool.eq_false_iff.mpr fun h => hne (by simpa using h)
  rw [contains, hhead, Bool.false_or]

/-- What holds no separator is found on one side of it. -/
theorem contains_append_cons (hc : c ∉ needle) (hne : needle ≠ []) (s t : List Char) :
    contains needle (s ++ c :: t) = (contains needle s || contains needle t) := by
  induction s with
  | nil =>
    rw [List.nil_append, contains_cons hc hne, contains, List.isEmpty_eq_false_iff.mpr hne,
      Bool.false_or]
  | cons x s ih =>
    rw [List.cons_append, contains, ← List.cons_append, isPrefixOf_append_cons hc, ih, contains,
      Bool.or_assoc]

theorem contains_join (hc : c ∉ needle) (hne : needle ≠ []) (pieces : List (List Char)) :
    contains needle (join c pieces) = pieces.any (contains needle) := by
  induction pieces with
  | nil => exact List.isEmpty_eq_false_iff.mpr hne
  | cons piece rest ih =>
    cases rest with
    | nil => exact (Bool.or_false _).symm
    | cons next more =>
      rw [join, contains_append_cons hc hne, ih]
      rfl

/-- What stands in front of the last `c` of a text, searched for with `c` behind it. -/
theorem contains_concat_iff {s rest : List Char} (hrest : c ∉ rest) :
    contains (needle ++ [c]) (s ++ c :: rest) = true ↔
      needle <:+ s ∨ contains (needle ++ [c]) s = true := by
  constructor
  · rw [contains_iff]
    rintro ⟨before, after, h⟩
    have hsplit : s ++ c :: rest = (before ++ needle) ++ c :: after := by simpa using h
    rcases List.append_eq_append_iff.mp hsplit with ⟨part, hpart, hafter⟩ | ⟨part, rfl, hafter⟩
    · cases part with
      | nil => exact .inl ⟨before, by simpa using hpart⟩
      | cons x part =>
        obtain ⟨rfl, hrest'⟩ := List.cons.inj hafter
        exact absurd (hrest' ▸ List.mem_append_right _ List.mem_cons_self) hrest
    · cases part with
      | nil => exact .inl ⟨before, by simp⟩
      | cons x part =>
        obtain ⟨rfl, -⟩ := List.cons.inj hafter
        exact .inr (contains_iff.mpr ⟨before, part, by simp⟩)
  · rintro (⟨before, rfl⟩ | h)
    · exact contains_iff.mpr ⟨before, rest, by simp⟩
    · obtain ⟨before, after, rfl⟩ := contains_iff.mp h
      exact contains_iff.mpr ⟨before, after ++ c :: rest, by simp⟩

theorem contains_eq_false {s : List Char} (hneedle : c ∈ needle) (hs : c ∉ s) :
    contains needle s = false := by
  refine Bool.eq_false_iff.mpr fun h => ?_
  obtain ⟨before, after, rfl⟩ := contains_iff.mp h
  exact hs (by simp [hneedle])

/-- In brackets only the whole is found. -/
theorem contains_bracketed_iff {s rest : List Char}
    (hs : ∀ x, x = '[' ∨ x = ']' → x ∉ s) (hrest : ∀ x, x = '[' ∨ x = ']' → x ∉ rest) :
    contains ('[' :: needle ++ [']', ':']) ('[' :: s ++ ']' :: ':' :: rest) = true ↔
      s = needle := by
  rw [contains_iff]
  constructor
  · rintro ⟨before, after, h⟩
    cases before with
    | nil =>
      have hsplit : s ++ ']' :: ':' :: rest = needle ++ ']' :: ':' :: after := by simpa using h
      have htail : ']' ∉ ':' :: rest := by simp [hrest]
      exact ((List.append_cons_inj_of_notMem (hs _ (.inr rfl)) htail).mp hsplit).1
    | cons x before =>
      have htail : s ++ ']' :: ':' :: rest = before ++ '[' :: (needle ++ ']' :: ':' :: after) := by
        simpa using (List.cons.inj h).2
      have hmem : '[' ∈ s ++ ']' :: ':' :: rest := htail ▸ by simp
      simp [hs, hrest] at hmem
  · rintro rfl
    exact ⟨[], rest, by simp⟩

theorem join_ne_nil {piece : List Char} (h : piece ≠ [])
    (pieces : List (List Char)) : join c (piece :: pieces) ≠ [] := by
  cases pieces with
  | nil => exact h
  | cons next more => exact List.append_ne_nil_of_left_ne_nil h _

/-- A text has one last `c`. -/
theorem append_cons_inj {s s' t t' : List Char} (ht : c ∉ t) (ht' : c ∉ t')
    (h : s ++ c :: t = s' ++ c :: t') : s = s' ∧ t = t' := by
  rcases List.append_eq_append_iff.mp h with ⟨part, rfl, hpart⟩ | ⟨part, rfl, hpart⟩
  · cases part with
    | nil => exact ⟨(List.append_nil s).symm, (List.cons.inj hpart).2⟩
    | cons x part =>
      have htail : t = part ++ c :: t' := (List.cons.inj hpart).2
      exact absurd (htail ▸ List.mem_append_right part List.mem_cons_self) ht
  · cases part with
    | nil => exact ⟨List.append_nil s', (List.cons.inj hpart).2.symm⟩
    | cons x part =>
      have htail : t' = part ++ c :: t := (List.cons.inj hpart).2
      exact absurd (htail ▸ List.mem_append_right part List.mem_cons_self) ht'

theorem not_mem_toDigits {base : Nat} (hbase : 1 < base)
    (h : ∀ d < base, d.digitChar ≠ c) (n : Nat) : c ∉ Nat.toDigits base n := by
  induction n using Nat.strongRecOn with
  | _ n ih =>
    rw [Nat.toDigits_eq_if hbase]
    split
    · rename_i hn
      exact fun hc => h n hn (List.mem_singleton.mp hc).symm
    · rename_i hn
      have hlt : n / base < n := Nat.div_lt_self (by omega) hbase
      rw [List.mem_append, List.mem_singleton]
      rintro (hc | hc)
      · exact ih _ hlt hc
      · exact h _ (Nat.mod_lt n (by omega)) hc.symm

theorem toDigits_inj {i j : Nat} (h : Nat.toDigits 10 i = Nat.toDigits 10 j) : i = j := by
  have hread := congrArg (Nat.ofDigitChars 10 · 0) h
  rwa [Nat.ofDigitChars_toDigits (by decide) (by decide),
    Nat.ofDigitChars_toDigits (by decide) (by decide)] at hread

end Text
end RedisKeeper
