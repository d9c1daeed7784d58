import RedisKeeper.Text.Basic

/-
White space in the sense of the Unicode property White_Space, and trimming text
by it.
-/
namespace RedisKeeper
namespace Text

/-- The code points with the property White_Space, as first and last of each
run. -/
def blankRanges : List (Nat × Nat) :=
  [(0x09, 0x0d), (0x20, 0x20), (0x85, 0x85), (0xa0, 0xa0), (0x1680, 0x1680),
   (0x2000, 0x200a), (0x2028, 0x2029), (0x202f, 0x202f), (0x205f, 0x205f),
   (0x3000, 0x3000)]

def inRanges (ranges : List (Nat × Nat)) (c : Char) : Bool :=
  ranges.any fun (first, last) => first ≤ c.toNat && c.toNat ≤ last

def isBlank (c : Char) : Bool := inRanges blankRanges c

/-- Every character that is white space to the core library is blank. -/
theorem isBlank_of_isWhitespace {c : Char} (h : c.isWhitespace = true) :
    isBlank c = true := by
  simp only [Char.isWhitespace, Bool.or_eq_true, decide_eq_true_eq] at h
  rcases h with ((rfl | rfl) | rfl) | rfl <;> decide

/-- Whether a text holds nothing but white space. -/
def blank (s : List Char) : Bool := s.all isBlank

/-- The text without white space at either end. -/
def trim (s : List Char) : List Char := trimEnd isBlank (s.dropWhile isBlank)

end Text
end RedisKeeper
