/-
Text as a list of characters: cutting it at a separator, trimming its end, and
searching it for another text.

Cutting and joining are inverse (`join_cut`, `cut_join`), cutting commutes with
appending at a separator (`cut_append`), and `contains` finds exactly the texts
that occur as a block (`contains_iff`).
-/
namespace RedisKeeper
namespace Text

/-- The pieces of a text between the occurrences of `c`.  There is one piece
more than there are separators, so the empty text has one empty piece. -/
def cut (c : Char) : List Char → List (List Char)
  | [] => [[]]
  | x :: xs =>
    if x = c then [] :: cut c xs
    else
      match cut c xs with
      | [] => [[x]]
      | piece :: pieces => (x :: piece) :: pieces

/-- The pieces written one after the other with `c` between them. -/
def join (c : Char) : List (List Char) → List Char
  | [] => []
  | [piece] => piece
  | piece :: next :: pieces => piece ++ c :: join c (next :: pieces)

theorem cut_ne_nil (c : Char) (s : List Char) : cut c s ≠ [] := by
  cases s with
  | nil => simp [cut]
  | cons x xs =>
    simp only [cut]
    split
    · simp
    · split <;> simp

theorem cut_cons_sep (c : Char) (s : List Char) : cut c (c :: s) = [] :: cut c s := by
  simp [cut]

/-- Cutting in front of a separator splits the work in two. -/
theorem cut_append (c : Char) (s t : List Char) :
    cut c (s ++ c :: t) = cut c s ++ cut c t := by
  induction s with
  | nil => simp [cut]
  | cons x xs ih =>
    simp only [List.cons_append, cut]
    split
    · simp [ih]
    · rw [ih]
      cases h : cut c xs with
      | nil => exact absurd h (cut_ne_nil c xs)
      | cons piece pieces => simp

/-- A text without the separator is its own only piece. -/
theorem cut_of_not_mem {c : Char} {s : List Char} (h : c ∉ s) : cut c s = [s] := by
  induction s with
  | nil => rfl
  | cons x xs ih =>
    simp only [List.mem_cons, not_or] at h
    simp [cut, Ne.symm h.1, ih h.2]

theorem join_cut (c : Char) (s : List Char) : join c (cut c s) = s := by
  induction s with
  | nil => rfl
  | cons x xs ih =>
    simp only [cut]
    split
    · rename_i h
      subst h
      cases hp : cut x xs with
      | nil => exact absurd hp (cut_ne_nil x xs)
      | cons piece pieces => rw [hp] at ih; simp [join, ih]
    · cases hp : cut c xs with
      | nil => exact absurd hp (cut_ne_nil c xs)
      | cons piece pieces =>
        rw [hp] at ih
        cases pieces with
        | nil => simpa [join] using ih
        | cons next rest => simpa [join] using ih

theorem cut_join {c : Char} {pieces : List (List Char)} (hne : pieces ≠ [])
    (h : ∀ piece ∈ pieces, c ∉ piece) : cut c (join c pieces) = pieces := by
  induction pieces with
  | nil => exact absurd rfl hne
  | cons piece rest ih =>
    cases rest with
    | nil => exact cut_of_not_mem (h piece (by simp))
    | cons next more =>
      have hp : c ∉ piece := h piece (by simp)
      have hr := ih (by simp) (fun p hm => h p (List.mem_cons_of_mem _ hm))
      simp only [join]
      rw [cut_append, cut_of_not_mem hp, hr]
      rfl

/-- The separator is in no piece. -/
theorem not_mem_of_mem_cut {c : Char} {s piece : List Char} (h : piece ∈ cut c s) :
    c ∉ piece := by
  induction s generalizing piece with
  | nil => simp only [cut, List.mem_singleton] at h; simp [h]
  | cons x xs ih =>
    simp only [cut] at h
    split at h
    · rcases List.mem_cons.1 h with h | h
      · simp [h]
      · exact ih h
    · rename_i hx
      split at h
      · simp only [List.mem_singleton] at h
        simp [h, Ne.symm hx]
      · rename_i first rest hc
        rcases List.mem_cons.1 h with h | h
        · subst h
          have : c ∉ first := ih (by simp [hc])
          simp [Ne.symm hx, this]
        · exact ih (by simp [hc, h])

/-- The text without the characters at its end that satisfy `p`. -/
def trimEnd (p : Char → Bool) (s : List Char) : List Char :=
  (s.reverse.dropWhile p).reverse

theorem trimEnd_append_of_last {p : Char → Bool} {s : List Char} {x : Char}
    (h : p x = false) : trimEnd p (s ++ [x]) = s ++ [x] := by
  simp [trimEnd, h]

/-- Whether `needle` occurs in a text as a block of neighbouring characters. -/
def contains (needle : List Char) : List Char → Bool
  | [] => needle.isEmpty
  | x :: xs => needle.isPrefixOf (x :: xs) || contains needle xs

theorem contains_iff {needle s : List Char} :
    contains needle s = true ↔ ∃ before after, s = before ++ needle ++ after := by
  induction s with
  | nil =>
    simp only [contains, List.isEmpty_iff]
    constructor
    · rintro rfl
      exact ⟨[], [], rfl⟩
    · rintro ⟨before, after, h⟩
      simp only [List.nil_eq, List.append_eq_nil_iff] at h
      exact h.1.2
  | cons x xs ih =>
    simp only [contains, Bool.or_eq_true, List.isPrefixOf_iff_prefix, ih]
    constructor
    · rintro (⟨after, h⟩ | ⟨before, after, h⟩)
      · exact ⟨[], after, by simp [h]⟩
      · exact ⟨x :: before, after, by simp [h]⟩
    · rintro ⟨before, after, h⟩
      cases before with
      | nil => exact .inl ⟨after, by simpa using h.symm⟩
      | cons y before =>
        simp only [List.cons_append, List.cons.injEq] at h
        exact .inr ⟨before, after, h.2⟩

/-- The value of a hexadecimal digit. -/
def hexDigit? (c : Char) : Option Nat :=
  if '0' ≤ c ∧ c ≤ '9' then some (c.toNat - '0'.toNat)
  else if 'a' ≤ c ∧ c ≤ 'f' then some (c.toNat - 'a'.toNat + 10)
  else if 'A' ≤ c ∧ c ≤ 'F' then some (c.toNat - 'A'.toNat + 10)
  else none

theorem hexDigit?_digitChar : ∀ d < 16, hexDigit? (Nat.digitChar d) = some d := by decide

end Text
end RedisKeeper
