import Mathlib.Data.List.Induction
import RedisKeeper.Proofs.Topology.Table

/-
Reading a table line by line.

A table is read from the lines of a text in the usual sense, where a line ends with a line
feed or with a carriage return and a line feed (`recordsOf_eq_lines`).  What a line tells
depends on that line alone: either it holds no row, or it tells the row of its fields
(`recordOfLine?_eq`).  So the tables of two texts that are put one below the other are put
one below the other, and lines that hold no row can be left out (`reading_by_lines`).
-/
namespace RedisKeeper
namespace Text

/-- A piece in front of a line feed, less the carriage return that belongs to its end. -/
def endedLine (piece : List Char) : List Char :=
  if piece.getLast? = some '\r' then piece.dropLast else piece

/-- What stands behind the last line feed is a line only if there is something. -/
def linesOf : List (List Char) → List (List Char)
  | [] => []
  | [last] => if last = [] then [] else [last]
  | piece :: next :: pieces => endedLine piece :: linesOf (next :: pieces)

def lines (text : List Char) : List (List Char) := linesOf (cut '\n' text)

theorem mem_of_mem_endedLine {piece : List Char} {x : Char} (h : x ∈ endedLine piece) :
    x ∈ piece := by
  unfold endedLine at h
  split at h
  · exact List.dropLast_subset piece h
  · exact h

theorem not_mem_of_mem_linesOf {pieces : List (List Char)} (h : ∀ piece ∈ pieces, '\n' ∉ piece) :
    ∀ line ∈ linesOf pieces, '\n' ∉ line := by
  fun_induction linesOf pieces with
  | case1 => simp
  | case2 => simp
  | case3 last hlast => exact h
  | case4 piece next pieces ih =>
    obtain ⟨hpiece, hrest⟩ := List.forall_mem_cons.mp h
    rw [List.forall_mem_cons]
    exact ⟨fun hmem => hpiece (mem_of_mem_endedLine hmem), ih hrest⟩

theorem trimEnd_concat {p : Char → Bool} {s : List Char} {x : Char} (h : p x = true) :
    trimEnd p (s ++ [x]) = trimEnd p s := by
  simp [trimEnd, h]

theorem trimEnd_endedLine (piece : List Char) :
    trimEnd (· = '\r') (endedLine piece) = trimEnd (· = '\r') piece := by
  rcases List.eq_nil_or_concat piece with rfl | ⟨s, x, rfl⟩
  · rfl
  · rw [List.concat_eq_append]
    by_cases hx : x = '\r'
    · subst hx
      simp [endedLine, trimEnd_concat]
    · simp [endedLine, hx]

theorem trimEnd_prefix (p : Char → Bool) (s : List Char) : trimEnd p s <+: s := by
  have h := List.reverse_prefix.mpr (List.dropWhile_suffix (l := s.reverse) p)
  rwa [List.reverse_reverse] at h

theorem blank_trimEnd {p : Char → Bool} (hp : ∀ c, p c = true → isBlank c = true)
    (s : List Char) : blank (trimEnd p s) = blank s := by
  induction s using List.reverseRecOn with
  | nil => rfl
  | append_singleton s x ih =>
    by_cases hx : p x = true
    · rw [trimEnd_concat hx, ih]
      simp [blank, hp x hx]
    · rw [trimEnd_append_of_last (by simpa using hx)]

/-- The first piece is empty when the text begins with the separator or is empty itself. -/
theorem isEmpty_headD_cut (c : Char) (s : List Char) :
    ((cut c s).getD 0 []).isEmpty = (s.isEmpty || s.head? == some c) := by
  cases s with
  | nil => rfl
  | cons x xs =>
    by_cases hx : x = c
    · simp [cut, hx]
    · cases hcut : cut c xs with
      | nil => exact absurd hcut (cut_ne_nil c xs)
      | cons piece pieces => simp [cut, hx, hcut]

end Text

namespace Snapshot

/-- Whether a line holds a row: it is not blank, and its first field is not empty. -/
def holdsRow (line : List Char) : Bool := !Text.blank line && line.head? != some ' '

/-- The row whose fields are those of a line. -/
def rowOfLine (line : List Char) : Record := ⟨Text.cut ' ' (Text.trimEnd (· = '\r') line)⟩

theorem recordOfLine?_eq (line : List Char) :
    recordOfLine? line = if holdsRow line then some (rowOfLine line) else none := by
  have hblank : Text.blank (Text.trimEnd (· = '\r') line) = Text.blank line := by
    apply Text.blank_trimEnd
    intro c hc
    rw [of_decide_eq_true hc]
    decide
  unfold recordOfLine? holdsRow
  simp only [hblank]
  by_cases hline : Text.blank line = true
  · simp [hline]
  · -- What is left without carriage returns is not empty, so it begins as the line does.
    have hne : Text.trimEnd (· = '\r') line ≠ [] := by
      intro hnil
      rw [hnil] at hblank
      exact hline hblank.symm
    have hhead : (Text.trimEnd (· = '\r') line).head? = line.head? := by
      obtain ⟨returns, hreturns⟩ := Text.trimEnd_prefix (· = '\r') line
      rw [← congrArg List.head? hreturns, List.head?_append_of_ne_nil _ hne]
    have hid : (rowOfLine line).nodeId.isEmpty = (line.head? == some ' ') := by
      rw [← hhead]
      show ((Text.cut ' ' _).getD 0 []).isEmpty = _
      rw [Text.isEmpty_headD_cut, List.isEmpty_eq_false_iff.mpr hne, Bool.false_or]
    show (if Text.blank line = true then none else
      if (rowOfLine line).nodeId.isEmpty = true then none else some (rowOfLine line)) = _
    rw [hid]
    by_cases hspace : line.head? = some ' '
    · simp [hline, hspace]
    · simp [hline, hspace]

theorem recordOfLine?_endedLine (piece : List Char) :
    recordOfLine? (Text.endedLine piece) = recordOfLine? piece := by
  unfold recordOfLine?
  rw [Text.trimEnd_endedLine]

theorem filterMap_linesOf (pieces : List (List Char)) :
    (Text.linesOf pieces).filterMap recordOfLine? = pieces.filterMap recordOfLine? := by
  fun_induction Text.linesOf pieces with
  | case1 => rfl
  | case2 => rfl
  | case3 => rfl
  | case4 piece next pieces ih =>
    rw [List.filterMap_cons, ih, recordOfLine?_endedLine]
    rfl

theorem filterMap_recordOfLine? (lines : List (List Char)) :
    lines.filterMap recordOfLine? = (lines.filter holdsRow).map rowOfLine := by
  rw [← List.filterMap_eq_map', List.filterMap_filter, ← funext recordOfLine?_eq]

theorem recordsOf_eq_lines (text : List Char) :
    recordsOf text = ((Text.lines text).filter holdsRow).map rowOfLine := by
  unfold recordsOf Text.lines
  rw [← filterMap_linesOf, filterMap_recordOfLine?]

/-- A carriage return that no line feed follows belongs to its line, but not to the row. -/
example :
    Text.lines "a\r\n\r\n x\nb\r".toList = [['a'], [], [' ', 'x'], ['b', '\r']] ∧
      (recordsOf "a\r\n\r\n x\nb\r".toList).map Record.fields = [[['a']], [['b']]] := by
  decide

/-- Lines that hold no row can be left out. -/
theorem recordsOf_join_filter (text : List Char) :
    recordsOf (Text.join '\n' ((Text.lines text).filter holdsRow)) = recordsOf text := by
  have hclean : ∀ line ∈ (Text.lines text).filter holdsRow, '\n' ∉ line := by
    intro line hline
    have hpieces := Text.not_mem_of_mem_linesOf fun piece => Text.not_mem_of_mem_cut (s := text)
    exact hpieces line (List.mem_of_mem_filter hline)
  rw [recordsOf_join_lines hclean, filterMap_recordOfLine?, List.filter_filter,
    recordsOf_eq_lines]
  simp

/-- Of two texts with a line feed between them, each is read as if it stood alone.  In a text,
every line that holds a row tells the row of its own fields, and it makes no difference
whether the other lines are there. -/
theorem reading_by_lines :
    (∀ a b : String,
      let whole := ofText (a ++ "\n" ++ b)
      whole.records = (ofText a).records ++ (ofText b).records ∧
        whole.size = (ofText a).size + (ofText b).size ∧
        (∀ role, whole.countRole role = (ofText a).countRole role + (ofText b).countRole role) ∧
        whole.countFailing = (ofText a).countFailing + (ofText b).countFailing ∧
        (∀ needle, whole.mentions needle =
          ((ofText a).mentions needle || (ofText b).mentions needle)) ∧
        ∀ host, whole.lists host = ((ofText a).lists host || (ofText b).lists host)) ∧
    ∀ text : String,
      let rows := (Text.lines text.toList).filter holdsRow
      (ofText text).records = rows.map rowOfLine ∧
        ofText (String.ofList (Text.join '\n' rows)) = ofText text := by
  constructor
  · intro a b whole
    have hrecords : whole.records = (ofText a).records ++ (ofText b).records :=
      ofText_append a b
    refine ⟨hrecords, ?_, ?_, ?_, ?_, ?_⟩
    · simp [size, hrecords]
    · simp [countRole, hrecords]
    · simp [countFailing, hrecords]
    · simp [mentions, hrecords]
    · simp only [lists, hrecords, List.any_append, implies_true]
  · intro text rows
    refine ⟨recordsOf_eq_lines text.toList, ?_⟩
    unfold ofText
    rw [String.toList_ofList, recordsOf_join_filter]

end Snapshot
end RedisKeeper
