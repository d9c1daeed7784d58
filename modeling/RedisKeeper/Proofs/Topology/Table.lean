import Mathlib.Data.List.Basic
import RedisKeeper.Topology.Snapshot

/-
Writing a table and reading it back.

A table of valid rows is read back as it was written, whether or not a line feed
stands at its end (`ofText_toText`, `ofText_toText_append`).  All rows that are read
from any text are valid (`valid_of_mem_recordsOf`), so the valid rows are just those
that can be read, and what was read once is read again from its own writing
(`rows_roundtrip`).
-/
namespace RedisKeeper
namespace Text

theorem mem_join_of_mem {c x : Char} {pieces : List (List Char)} {piece : List Char}
    (hpiece : piece ∈ pieces) (hx : x ∈ piece) : x ∈ join c pieces := by
  induction pieces with
  | nil => exact absurd hpiece List.not_mem_nil
  | cons first rest ih =>
    cases rest with
    | nil => rwa [List.mem_singleton.mp hpiece] at hx
    | cons next more =>
      rw [join, List.mem_append, List.mem_cons]
      rcases List.mem_cons.mp hpiece with rfl | hrest
      · exact .inl hx
      · exact .inr (.inr (ih hrest))

theorem not_mem_join {c x : Char} {pieces : List (List Char)} (hc : x ≠ c)
    (h : ∀ piece ∈ pieces, x ∉ piece) : x ∉ join c pieces := by
  induction pieces with
  | nil => exact List.not_mem_nil
  | cons first rest ih =>
    obtain ⟨hfirst, hrest⟩ := List.forall_mem_cons.mp h
    cases rest with
    | nil => exact hfirst
    | cons next more =>
      rw [join, List.mem_append, List.mem_cons]
      rintro (hx | hx | hx)
      · exact hfirst hx
      · exact hc hx
      · exact ih hrest hx

theorem getLast?_join_ne {c x : Char} {pieces : List (List Char)} (hc : c ≠ x)
    (h : ∀ last, pieces.getLast? = some last → last.getLast? ≠ some x) :
    (join c pieces).getLast? ≠ some x := by
  induction pieces with
  | nil => exact nofun
  | cons first rest ih =>
    cases rest with
    | nil => exact h first rfl
    | cons next more =>
      rw [join, List.getLast?_append_cons, List.getLast?_cons]
      have hrest := ih fun last hlast => h last (by rwa [List.getLast?_cons_cons])
      cases hjoin : (join c (next :: more)).getLast? with
      | none => simpa using hc
      | some y =>
        rw [hjoin] at hrest
        simpa using hrest

theorem getLast?_join {c x : Char} {pieces : List (List Char)} {last : List Char}
    (hlast : pieces.getLast? = some last) (hx : last.getLast? = some x) :
    (join c pieces).getLast? = some x := by
  induction pieces with
  | nil => exact absurd hlast nofun
  | cons first rest ih =>
    cases rest with
    | nil =>
      obtain rfl : first = last := Option.some.inj hlast
      exact hx
    | cons next more =>
      rw [List.getLast?_cons_cons] at hlast
      rw [join, List.getLast?_append_cons, List.getLast?_cons, ih hlast]
      rfl

theorem mem_of_mem_cut {c x : Char} {s piece : List Char} (hpiece : piece ∈ cut c s)
    (hx : x ∈ piece) : x ∈ s := by
  have hjoin := mem_join_of_mem (c := c) hpiece hx
  rwa [join_cut] at hjoin

theorem mem_of_mem_trimEnd {p : Char → Bool} {s : List Char} {x : Char} (h : x ∈ trimEnd p s) :
    x ∈ s := by
  rw [trimEnd, List.mem_reverse] at h
  exact List.mem_reverse.mp ((List.dropWhile_suffix p).subset h)

theorem of_getLast?_trimEnd {p : Char → Bool} {s : List Char} {x : Char}
    (h : (trimEnd p s).getLast? = some x) : p x = false := by
  rw [trimEnd, List.getLast?_reverse] at h
  have hhead := List.head?_dropWhile_not p s.reverse
  rw [h] at hhead
  simpa using hhead

theorem trimEnd_eq_self {p : Char → Bool} {s : List Char}
    (h : ∀ x, s.getLast? = some x → p x = false) : trimEnd p s = s := by
  rcases List.eq_nil_or_concat s with rfl | ⟨s', x, rfl⟩
  · rfl
  · rw [List.concat_eq_append]
    exact trimEnd_append_of_last (h x (by simp))

end Text

namespace Record

/-- A row that keeps its fields when it is written on a line and read again. -/
structure Valid (r : Record) : Prop where
  clean : ∀ field ∈ r.fields, ' ' ∉ field ∧ '\n' ∉ field
  named : r.nodeId ≠ []
  /-- Carriage returns at the end of a line do not belong to the row. -/
  ending : ∀ last, r.fields.getLast? = some last → last.getLast? ≠ some '\r'
  visible : ∃ field ∈ r.fields, ∃ c ∈ field, Text.isBlank c = false

theorem Valid.fields_ne_nil {r : Record} (h : r.Valid) : r.fields ≠ [] := by
  intro hnil
  obtain ⟨field, hfield, -⟩ := h.visible
  rw [hnil] at hfield
  exact List.not_mem_nil hfield

theorem Valid.not_mem_line {r : Record} (h : r.Valid) : '\n' ∉ r.line :=
  Text.not_mem_join (by decide) fun field hfield => (h.clean field hfield).2

theorem Valid.read?_line {r : Record} (h : r.Valid) : read? r.line = some r := by
  have hcut : Text.cut ' ' r.line = r.fields :=
    Text.cut_join h.fields_ne_nil fun field hfield => (h.clean field hfield).1
  have hid : (Record.mk (Text.cut ' ' r.line)).nodeId.isEmpty = false := by
    rw [hcut]
    exact List.isEmpty_eq_false_iff.mpr h.named
  rw [read?, if_neg (by rw [hid]; exact Bool.false_ne_true), hcut]

theorem Valid.recordOfLine?_line {r : Record} (h : r.Valid) :
    Snapshot.recordOfLine? r.line = some r := by
  have htrim : Text.trimEnd (· = '\r') r.line = r.line := by
    refine Text.trimEnd_eq_self fun x hx => decide_eq_false fun hcr => ?_
    exact Text.getLast?_join_ne (by decide) h.ending (hcr ▸ hx)
  have hblank : Text.blank r.line = false := by
    obtain ⟨field, hfield, c, hc, hvisible⟩ := h.visible
    rw [Text.blank, List.all_eq_false]
    exact ⟨c, Text.mem_join_of_mem hfield hc, by rw [hvisible]; exact Bool.false_ne_true⟩
  rw [Snapshot.recordOfLine?, htrim, hblank]
  exact h.read?_line

/-- What is left of a line without carriage returns at its end has the form of a row as
soon as it is not blank and names a node. -/
theorem valid_of_recordOfLine? {line : List Char} {r : Record} (hline : '\n' ∉ line)
    (h : Snapshot.recordOfLine? line = some r) : r.Valid := by
  rw [Snapshot.recordOfLine?] at h
  generalize htrim : Text.trimEnd (· = '\r') line = trimmed at h
  split at h
  · exact absurd h nofun
  rename_i hblank
  obtain ⟨hfields, hid⟩ := read?_eq_some h
  have hfeed : '\n' ∉ trimmed := fun hmem => hline (Text.mem_of_mem_trimEnd (htrim ▸ hmem))
  have hwritten : Text.join ' ' r.fields = trimmed := line_of_read? h
  refine ⟨fun field hfield => ?clean, hid, fun last hlast hreturn => ?ending, ?visible⟩
  case clean =>
    rw [hfields] at hfield
    exact ⟨Text.not_mem_of_mem_cut hfield, fun hmem => hfeed (Text.mem_of_mem_cut hfield hmem)⟩
  case ending =>
    have hend := Text.getLast?_join (c := ' ') hlast hreturn
    rw [hwritten, ← htrim] at hend
    have hnot := Text.of_getLast?_trimEnd hend
    exact absurd hnot (by decide)
  case visible =>
    obtain ⟨c, hc, hvisible⟩ : ∃ c ∈ trimmed, Text.isBlank c = false := by
      simpa [Text.blank] using hblank
    by_contra hnone
    have hspace : c ≠ ' ' := by
      rintro rfl
      exact absurd hvisible (by decide)
    have hall : ∀ field ∈ r.fields, c ∉ field := fun field hfield hmem =>
      hnone ⟨field, hfield, c, hmem, hvisible⟩
    exact Text.not_mem_join hspace hall (hwritten ▸ hc)

end Record

namespace Snapshot

def toText (s : Snapshot) : String :=
  String.ofList (Text.join '\n' (s.records.map Record.line))

theorem recordsOf_nil : recordsOf [] = [] := rfl

theorem recordsOf_join_lines {lines : List (List Char)} (h : ∀ line ∈ lines, '\n' ∉ line) :
    recordsOf (Text.join '\n' lines) = lines.filterMap recordOfLine? := by
  by_cases hnil : lines = []
  · subst hnil
    rfl
  · rw [recordsOf, Text.cut_join hnil h]

theorem recordsOf_join {rows : List Record} (h : ∀ r ∈ rows, r.Valid) :
    recordsOf (Text.join '\n' (rows.map Record.line)) = rows := by
  have hclean : ∀ line ∈ rows.map Record.line, '\n' ∉ line := by
    intro line hline
    obtain ⟨r, hr, rfl⟩ := List.mem_map.mp hline
    exact (h r hr).not_mem_line
  rw [recordsOf_join_lines hclean, List.filterMap_map]
  refine (List.filterMap_congr fun r hr => ?_).trans List.filterMap_some
  exact (h r hr).recordOfLine?_line

theorem ofText_toText {s : Snapshot} (h : ∀ r ∈ s.records, r.Valid) : ofText s.toText = s := by
  rw [ofText, toText, String.toList_ofList, recordsOf_join h]

theorem valid_of_mem_recordsOf {text : List Char} {r : Record} (h : r ∈ recordsOf text) :
    r.Valid := by
  obtain ⟨line, hline, hr⟩ := List.mem_filterMap.mp h
  exact Record.valid_of_recordOfLine? (Text.not_mem_of_mem_cut hline) hr

theorem ofText_toText_append {s : Snapshot} (h : ∀ r ∈ s.records, r.Valid) :
    ofText (s.toText ++ "\n") = s := by
  have hline := recordsOf_append (Text.join '\n' (s.records.map Record.line)) []
  rw [recordsOf_join h, recordsOf_nil, List.append_nil] at hline
  rw [ofText, toText, String.toList_append, String.toList_ofList]
  exact congrArg Snapshot.mk hline

/-- Valid rows that are written are read again, one record for each and in their order.  What
is read from any text are valid rows, and their own writing tells the same table again. -/
theorem rows_roundtrip :
    (∀ rows : List (List (List Char)), (∀ row ∈ rows, (Record.mk row).Valid) →
      let table := ofText (String.ofList (Text.join '\n' (rows.map (Text.join ' '))))
      table.records.map Record.fields = rows ∧
        ∀ r ∈ table.records, r.nodeId = r.fields[0]?.getD [] ∧ r.address = r.fields[1]?.getD [] ∧
          r.flags = r.fields[2]?.getD [] ∧ r.linkState = r.fields[7]?.getD []) ∧
    ∀ raw : String, (∀ r ∈ (ofText raw).records, r.Valid) ∧
      ofText (ofText raw).toText = ofText raw := by
  refine ⟨fun rows h => ⟨?_, fun r _ => ?_⟩, fun raw => ?_⟩
  · have hvalid : ∀ r ∈ rows.map Record.mk, r.Valid := by
      intro r hr
      obtain ⟨row, hrow, rfl⟩ := List.mem_map.mp hr
      exact h row hrow
    have hread := recordsOf_join hvalid
    rw [List.map_map] at hread
    have hlines : Record.line ∘ Record.mk = Text.join ' ' := rfl
    rw [hlines] at hread
    rw [ofText, String.toList_ofList, hread, List.map_map]
    exact List.map_id rows
  · simp only [Record.nodeId, Record.address, Record.flags, Record.linkState, Record.field,
      List.getD_eq_getElem?_getD, and_self]
  · have hvalid : ∀ r ∈ (ofText raw).records, r.Valid := fun r hr => valid_of_mem_recordsOf hr
    exact ⟨hvalid, ofText_toText hvalid⟩

/-- Rows with empty fields, a carriage return in front of a space, and a first field that is
blank. -/
theorem rows_roundtrip_oddRows :
    let rows := [["a\r".toList, [], "x".toList], ["\u00a0".toList, "b".toList, []]]
    (∀ row ∈ rows, (Record.mk row).Valid) ∧
      (ofText "a\r  x\n\u00a0 b ").records.map Record.fields = rows := by
  intro rows
  have hvalid : ∀ row ∈ rows, (Record.mk row).Valid := by
    refine List.forall_mem_cons.mpr ⟨⟨by decide, by decide, ?_, ?_⟩,
      List.forall_mem_singleton.mpr ⟨by decide, by decide, ?_, ?_⟩⟩
    · rintro last ⟨⟩
      decide
    · exact ⟨"a\r".toList, by decide, 'a', by decide, by decide⟩
    · rintro last ⟨⟩
      decide
    · exact ⟨"b".toList, by decide, 'b', by decide, by decide⟩
  exact ⟨hvalid, (rows_roundtrip.1 rows hvalid).1⟩

end Snapshot
end RedisKeeper
