import RedisKeeper.Address.Reader
import RedisKeeper.Address.Writer
import RedisKeeper.Proofs.Json.Taking
import RedisKeeper.Proofs.Text.Searching
import RedisKeeper.Proofs.Topology.Table

/-
Addresses are read back from their text.

A number is read from the digits that write it, and groups are read from the numbers
between their colons (`Ipv6.plainGroups?_groupsText`).  The two colons of a gap are the
first ones in a row, and the zeros that are put into it are those that were left out
(`Ipv6.read?_text`).  So each address has one text of its own, whichever text it was read
from, and an endpoint tells both the address and the port (`texts_canonical`).
-/
namespace RedisKeeper

/-! ## Text without white space around it -/

namespace Text

theorem trim_eq_self {s : List Char} (h : ∀ c, isBlank c = true → c ∉ s) : trim s = s := by
  have hmem (c : Char) (hc : c ∈ s) : isBlank c = false :=
    Bool.eq_false_iff.mpr fun hblank => h c hblank hc
  have hfront : s.dropWhile isBlank = s := by
    cases s with
    | nil => rfl
    | cons c s => exact List.dropWhile_cons_of_neg (by simp [hmem c List.mem_cons_self])
  rw [trim, hfront]
  exact trimEnd_eq_self fun c hc => hmem c (List.mem_of_getLast? hc)

/-- White space is nothing that addresses are written with. -/
theorem ne_of_isBlank {c : Char} (h : isBlank c = true) :
    (∀ d < 16, Nat.digitChar d ≠ c) ∧ c ≠ '.' ∧ c ≠ ':' := by
  have hdigit : ∀ d < 16, isBlank (Nat.digitChar d) = false := by decide
  refine ⟨fun d hd heq => ?_, ?_, ?_⟩
  · rw [← heq, hdigit d hd] at h
    exact absurd h Bool.false_ne_true
  · rintro rfl
    exact absurd h (by decide)
  · rintro rfl
    exact absurd h (by decide)

end Text

/-! ## Version 4 -/

namespace Ipv4

theorem not_mem_text {c : Char} (hdigit : ∀ d < 10, Nat.digitChar d ≠ c) (hdot : c ≠ '.')
    (a : Ipv4) : c ∉ a.text := by
  refine Text.not_mem_join hdot fun piece hpiece => ?_
  obtain ⟨byte, -, rfl⟩ := List.mem_map.mp hpiece
  exact Text.not_mem_toDigits (by decide) hdigit byte.toNat

theorem byte?_toDigits (b : UInt8) : byte? (Nat.toDigits 10 b.toNat) = some b := by
  have hbound : b.toNat < 256 := b.toNat_lt
  have hlength : (Nat.toDigits 10 b.toNat).length ≤ 3 :=
    (Nat.length_toDigits_le_iff (by decide) (by decide)).mpr (by omega)
  have hdigits : (Nat.toDigits 10 b.toNat).all Char.isDigit = true :=
    List.all_eq_true.mpr Json.Reading.isDigit_of_mem_toDigits
  -- Only zero itself is written with a zero in front.
  have hfront : (Nat.toDigits 10 b.toNat).head? = some '0' →
      (Nat.toDigits 10 b.toNat).length = 1 := by
    rcases Nat.eq_zero_or_pos b.toNat with hzero | hpos
    · rw [hzero]
      exact fun _ => rfl
    · obtain ⟨c, cs, hcs, hc⟩ := Json.Reading.exists_toDigits hpos
      rw [hcs]
      exact fun h => absurd (Option.some.inj h) hc
  have hvalue := Json.Reading.digitsValue_toDigits b.toNat
  rw [Json.Reading.digitsValue] at hvalue
  rw [byte?, if_neg (by simpa [Nat.toDigits_ne_nil, hdigits, hlength] using hfront), hvalue,
    if_pos hbound, Nat.toUInt8_eq, UInt8.ofNat_toNat]

theorem read?_text (a : Ipv4) : read? a.text = some a := by
  have hpieces : ∀ piece ∈ [a.first, a.second, a.third, a.fourth].map
      fun b => Nat.toDigits 10 b.toNat, '.' ∉ piece := by
    intro piece hpiece
    obtain ⟨b, -, rfl⟩ := List.mem_map.mp hpiece
    exact Text.not_mem_toDigits (by decide) (by decide) b.toNat
  rw [read?, text, Text.cut_join (by simp) hpieces]
  simp [byte?_toDigits]

theorem isDigit_of_byte? {s : List Char} {b : UInt8} (h : byte? s = some b) :
    ∀ c ∈ s, c.isDigit = true := by
  rw [byte?] at h
  split at h
  · exact absurd h nofun
  · rename_i hform
    simp only [not_or, Bool.not_eq_true', Bool.not_eq_false] at hform
    exact List.all_eq_true.mp hform.2.2.1

theorem colon_not_mem_of_read? {s : List Char} {a : Ipv4} (h : read? s = some a) : ':' ∉ s := by
  have hpiece {piece : List Char} {b : UInt8} (hb : byte? piece = some b) : ':' ∉ piece :=
    fun hmem => absurd (isDigit_of_byte? hb ':' hmem) (by decide)
  rw [read?] at h
  split at h
  · rename_i first second third fourth hcut
    simp only [Option.bind_eq_bind, Option.bind_eq_some_iff] at h
    obtain ⟨b₁, h₁, b₂, h₂, b₃, h₃, b₄, h₄, -⟩ := h
    rw [← Text.join_cut '.' s, hcut]
    refine Text.not_mem_join (by decide) fun piece hmem => ?_
    simp only [List.mem_cons, List.not_mem_nil, or_false] at hmem
    obtain rfl | rfl | rfl | rfl := hmem
    · exact hpiece h₁
    · exact hpiece h₂
    · exact hpiece h₃
    · exact hpiece h₄
  · exact absurd h nofun

end Ipv4

/-! ## Version 6 -/

namespace Ipv6

/-- Reads one more digit behind the number that was read so far. -/
def readOn (soFar : Option Nat) (c : Char) : Option Nat :=
  soFar.bind fun n => (Text.hexDigit? c).map (n * 16 + ·)

theorem group?_eq (s : List Char) :
    group? s = if s.isEmpty ∨ 4 < s.length then none
      else (s.foldl readOn (some 0)).map Nat.toUInt16 := rfl

theorem foldl_readOn_toDigits (n : Nat) :
    (Nat.toDigits 16 n).foldl readOn (some 0) = some n := by
  induction n using Nat.strongRecOn with
  | _ n ih =>
    rw [Nat.toDigits_eq_if (by decide)]
    split
    · rename_i hn
      simp [readOn, Text.hexDigit?_digitChar n hn]
    · rename_i hn
      have hlast := Text.hexDigit?_digitChar (n % 16) (Nat.mod_lt n (by decide))
      rw [List.foldl_append, ih (n / 16) (by omega)]
      simp only [List.foldl_cons, List.foldl_nil, readOn, hlast, Option.bind_some,
        Option.map_some, Option.some.injEq]
      omega

theorem group?_toDigits (g : UInt16) : group? (Nat.toDigits 16 g.toNat) = some g := by
  have hbound : g.toNat < 65536 := g.toNat_lt
  have hlength : (Nat.toDigits 16 g.toNat).length ≤ 4 :=
    (Nat.length_toDigits_le_iff (by decide) (by decide)).mpr (by omega)
  rw [group?_eq, if_neg (by simpa [Nat.toDigits_ne_nil] using hlength), foldl_readOn_toDigits,
    Option.map_some, Nat.toUInt16_eq, UInt16.ofNat_toNat]

/-- The texts of the groups, without the colons between them. -/
def groupTexts (groups : List UInt16) : List (List Char) :=
  groups.map fun g => Nat.toDigits 16 g.toNat

theorem groupsText_eq (groups : List UInt16) :
    groupsText groups = Text.join ':' (groupTexts groups) := rfl

theorem of_mem_groupTexts {groups : List UInt16} {piece : List Char}
    (h : piece ∈ groupTexts groups) : piece ≠ [] ∧ ':' ∉ piece := by
  obtain ⟨g, -, rfl⟩ := List.mem_map.mp h
  exact ⟨Nat.toDigits_ne_nil, Text.not_mem_toDigits (by decide) (by decide) g.toNat⟩

theorem cut_groupsText {groups : List UInt16} (h : groups ≠ []) :
    Text.cut ':' (groupsText groups) = groupTexts groups :=
  Text.cut_join (by simpa [groupTexts] using h) fun _ hpiece => (of_mem_groupTexts hpiece).2

theorem groupsText_ne_nil (g : UInt16) (groups : List UInt16) : groupsText (g :: groups) ≠ [] :=
  Text.join_ne_nil Nat.toDigits_ne_nil _

theorem mapM_groupTexts (groups : List UInt16) : (groupTexts groups).mapM group? = some groups := by
  induction groups with
  | nil => rfl
  | cons g groups ih =>
    rw [groupTexts] at ih
    simp [groupTexts, group?_toDigits, ih]

theorem partGroups?_groupTexts (groups : List UInt16) :
    partGroups? (groupTexts groups) = some groups := by
  induction groups with
  | nil => rfl
  | cons g groups ih =>
    cases groups with
    | nil => simp [groupTexts, partGroups?, group?_toDigits]
    | cons next rest =>
      rw [groupTexts, List.map_cons] at ih
      simp [groupTexts, partGroups?, group?_toDigits, ih]

theorem plainGroups?_groupsText (groups : List UInt16) :
    plainGroups? (groupsText groups) = some groups := by
  cases groups with
  | nil => rfl
  | cons g groups =>
    rw [plainGroups?, if_neg (by simpa using groupsText_ne_nil g groups),
      cut_groupsText (List.cons_ne_nil g groups), mapM_groupTexts]

theorem groups?_groupsText (groups : List UInt16) :
    groups? (groupsText groups) = some groups := by
  cases groups with
  | nil => rfl
  | cons g groups =>
    rw [groups?, if_neg (by simpa using groupsText_ne_nil g groups),
      cut_groupsText (List.cons_ne_nil g groups), partGroups?_groupTexts]

/-! ### The gap -/

theorem splitGap_cons {c : Char} {rest : List Char} (h : c ≠ ':' ∨ rest.head? ≠ some ':') :
    splitGap (c :: rest) = (splitGap rest).map fun pair => (c :: pair.1, pair.2) := by
  rw [splitGap]
  rintro tail rfl rfl
  exact h.elim (fun hc => hc rfl) fun hrest => hrest rfl

theorem splitGap_append {piece : List Char} (h : ':' ∉ piece) (rest : List Char) :
    splitGap (piece ++ rest) = (splitGap rest).map fun pair => (piece ++ pair.1, pair.2) := by
  induction piece with
  | nil => simp
  | cons c piece ih =>
    obtain ⟨hc, hpiece⟩ := not_or.mp (mt List.mem_cons.mpr h)
    rw [List.cons_append, splitGap_cons (.inl (Ne.symm hc)), ih hpiece, Option.map_map]
    rfl

/-- A gap is not looked for among parts of which none is empty. -/
theorem splitGap_join_append {pieces : List (List Char)}
    (h : ∀ piece ∈ pieces, piece ≠ [] ∧ ':' ∉ piece) (rest : List Char) :
    splitGap (Text.join ':' pieces ++ rest) =
      (splitGap rest).map fun pair => (Text.join ':' pieces ++ pair.1, pair.2) := by
  induction pieces with
  | nil => simp [Text.join]
  | cons piece pieces ih =>
    obtain ⟨⟨-, hpiece⟩, hpieces⟩ := List.forall_mem_cons.mp h
    cases pieces with
    | nil => exact splitGap_append hpiece rest
    | cons next more =>
      obtain ⟨hne, hnext⟩ := hpieces next List.mem_cons_self
      have hhead : (Text.join ':' (next :: more) ++ rest).head? ≠ some ':' := by
        cases hn : next with
        | nil => exact absurd hn hne
        | cons c cs =>
          have hc : c ≠ ':' := by
            rintro rfl
            exact hnext (hn ▸ List.mem_cons_self)
          cases more <;> simpa [Text.join] using hc
      rw [Text.join, List.append_assoc, List.cons_append, splitGap_append hpiece,
        splitGap_cons (.inr hhead), ih hpieces, Option.map_map, Option.map_map]
      simp [Function.comp_def]

theorem splitGap_groupsText (groups : List UInt16) : splitGap (groupsText groups) = none := by
  have hgap : splitGap (groupsText groups ++ []) = none :=
    splitGap_join_append (fun _ => of_mem_groupTexts) []
  rwa [List.append_nil] at hgap

theorem splitGap_gap (groups : List UInt16) (rest : List Char) :
    splitGap (groupsText groups ++ ':' :: ':' :: rest) = some (groupsText groups, rest) := by
  rw [groupsText_eq, splitGap_join_append fun _ => of_mem_groupTexts]
  simp [splitGap]

theorem eq_replicate_append {groups : List UInt16} {length : Nat} (h : length ≤ zerosAhead groups) :
    groups = List.replicate length 0 ++ groups.drop length := by
  induction length generalizing groups with
  | zero => rfl
  | succ length ih =>
    cases groups with
    | nil => exact absurd h (Nat.not_succ_le_zero length)
    | cons g groups =>
      by_cases hg : g = 0
      · have hrest : length ≤ zerosAhead groups := by simpa [zerosAhead, hg] using h
        rw [List.replicate_succ, List.drop_succ_cons, List.cons_append, ← ih hrest, hg]
      · simp [zerosAhead, hg] at h

/-- Zeros stand where the longest run of zeros is said to be. -/
theorem longestZeros_le (groups : List UInt16) :
    (longestZeros groups).2 ≤ zerosAhead (groups.drop (longestZeros groups).1) := by
  refine List.foldlRecOn
    (motive := fun best : Nat × Nat => best.2 ≤ zerosAhead (groups.drop best.1)) _ _
    (Nat.zero_le _) fun best hbest start _ => ?_
  dsimp only
  split
  · exact Nat.le_refl _
  · exact hbest

theorem read?_text (a : Ipv6) : read? a.text = some a := by
  have hzeros := eq_replicate_append (longestZeros_le a.groups)
  rw [List.drop_drop] at hzeros
  rw [text]
  generalize longestZeros a.groups = run at hzeros ⊢
  obtain ⟨start, length⟩ := run
  have hgroups : a.groups.take start ++ List.replicate length 0 ++ a.groups.drop (start + length) =
      a.groups := by
    rw [List.append_assoc, ← hzeros, List.take_append_drop]
  have hofGroups : ofGroups? a.groups = some a := dif_pos a.length_eq
  dsimp only
  split
  · rw [read?, splitGap_groupsText]
    simp only [groups?_groupsText, Option.bind_some, hofGroups]
  · rename_i hlong
    have hlength := congrArg List.length hgroups
    simp only [List.length_append, List.length_replicate, a.length_eq] at hlength
    have hgiven : (a.groups.take start).length + (a.groups.drop (start + length)).length ≤ 7 := by
      omega
    have hgap : 8 - ((a.groups.take start).length + (a.groups.drop (start + length)).length) =
        length := by
      omega
    rw [read?, List.append_assoc, List.cons_append, List.cons_append, List.nil_append, splitGap_gap]
    simp only [plainGroups?_groupsText, groups?_groupsText, Option.bind_eq_bind, Option.bind_some,
      if_pos hgiven, hgap, hgroups, hofGroups]

theorem not_mem_text {c : Char} (hdigit : ∀ d < 16, Nat.digitChar d ≠ c) (hcolon : c ≠ ':')
    (a : Ipv6) : c ∉ a.text := by
  have hgroups (groups : List UInt16) : c ∉ groupsText groups := by
    refine Text.not_mem_join hcolon fun piece hpiece => ?_
    obtain ⟨g, -, rfl⟩ := List.mem_map.mp hpiece
    exact Text.not_mem_toDigits (by decide) hdigit g.toNat
  dsimp only [text]
  split
  · exact hgroups _
  · simp [hgroups, hcolon]

/-- Without a colon there are two groups at most. -/
theorem colon_mem_of_read? {s : List Char} {a : Ipv6} (h : read? s = some a) : ':' ∈ s := by
  by_contra hcolon
  have hgap : splitGap s = none := by
    have hsplit := splitGap_append hcolon []
    rwa [List.append_nil] at hsplit
  rw [read?, hgap] at h
  obtain ⟨groups, hgroups, ha⟩ := Option.bind_eq_some_iff.mp h
  have hfew : groups.length ≤ 2 := by
    rw [groups?] at hgroups
    split at hgroups
    · obtain rfl := Option.some.inj hgroups
      exact Nat.zero_le _
    · rw [Text.cut_of_not_mem hcolon, partGroups?] at hgroups
      cases hgroup : group? s with
      | some g =>
        obtain rfl : [g] = groups := by simpa [hgroup] using hgroups
        exact Nat.le_succ 1
      | none =>
        obtain ⟨b, -, rfl⟩ : ∃ b, Ipv4.read? s = some b ∧ b.groups = groups := by
          simpa [hgroup] using hgroups
        exact Nat.le_refl 2
  rw [ofGroups?, dif_neg (by omega)] at ha
  exact absurd ha nofun

/-! ### Version 4 inside of version 6 -/

/-- The address that stands for one of version 4. -/
def ofIpv4 (b : Ipv4) : Ipv6 := ⟨[0, 0, 0, 0, 0, 0xffff] ++ b.groups, rfl⟩

theorem mapped?_ofIpv4 (b : Ipv4) : (ofIpv4 b).mapped? = some b := by
  have hpair (x y : UInt8) : ((x.toUInt16 * 256 + y.toUInt16) / 256).toUInt8 = x ∧
      (x.toUInt16 * 256 + y.toUInt16).toUInt8 = y := by
    have hx := x.toNat_lt
    have hy := y.toNat_lt
    rw [← UInt8.toNat_inj, ← UInt8.toNat_inj]
    constructor
    · simp
      omega
    · simp
  simp [mapped?, ofIpv4, Ipv4.groups, hpair]

theorem group?_eq_none {s : List Char} {c : Char} (hc : c ∈ s) (hdigit : Text.hexDigit? c = none) :
    group? s = none := by
  have hstuck (rest : List Char) : rest.foldl readOn none = none := by
    induction rest with
    | nil => rfl
    | cons x rest ih => exact ih
  obtain ⟨before, after, rfl⟩ := List.append_of_mem hc
  have hnone : readOn (before.foldl readOn (some 0)) c = none := by
    simp [readOn, hdigit]
  rw [group?_eq, List.foldl_append, List.foldl_cons, hnone, hstuck]
  split <;> rfl

/-- The usual way to write it: two zeros are written for six, and the address itself behind. -/
theorem read?_mapped (b : Ipv4) : read? ("::ffff:".toList ++ b.text) = some (ofIpv4 b) := by
  have hgroup : group? b.text = none :=
    group?_eq_none (c := '.') (by simp [Ipv4.text, Text.join]) (by decide)
  have hcolon : ':' ∉ b.text := Ipv4.not_mem_text (by decide) (by decide) b
  have htext : "::ffff:".toList ++ b.text = ':' :: ':' :: ("ffff".toList ++ ':' :: b.text) := rfl
  have hfront : plainGroups? [] = some [] := rfl
  have hffff : group? ['f', 'f', 'f', 'f'] = some 0xffff := by decide
  have hparts : groups? ("ffff".toList ++ ':' :: b.text) = some (0xffff :: b.groups) := by
    rw [groups?, if_neg (by simp), Text.cut_append, Text.cut_of_not_mem (by decide),
      Text.cut_of_not_mem hcolon]
    simp [partGroups?, hffff, hgroup, Ipv4.read?_text]
  rw [read?, htext, splitGap]
  simp only [hfront, hparts]
  rfl

end Ipv6

namespace Address

theorem ofIpv6_of_mapped {a : Ipv6} {b : Ipv4} (h : a.mapped? = some b) : ofIpv6 a = .v4 b := by
  rw [ofIpv6]
  split
  · rename_i b' hb'
    rw [Option.some.inj (h.symm.trans hb')]
  · rename_i hnone
    exact absurd (h.symm.trans hnone) nofun

theorem ofIpv6_of_unmapped {a : Ipv6} (h : a.mapped? = none) : ofIpv6 a = .v6 a h := by
  rw [ofIpv6]
  split
  · rename_i b hb
    exact absurd (h.symm.trans hb) nofun
  · rfl

/-- No text is of both versions. -/
theorem read?_eq_ofIpv6 {s : String} {a : Ipv6} (h : Ipv6.read? (Text.trim s.toList) = some a) :
    read? s = some (ofIpv6 a) := by
  have hcolon := Ipv6.colon_mem_of_read? h
  have hnot : Ipv4.read? (Text.trim s.toList) = none := by
    cases hread : Ipv4.read? (Text.trim s.toList) with
    | none => rfl
    | some b => exact absurd hcolon (Ipv4.colon_not_mem_of_read? hread)
  simp [read?, hnot, h]

theorem read?_v4 (a : Ipv4) : read? (String.ofList a.text) = some (.v4 a) := by
  have htrim : Text.trim a.text = a.text := by
    refine Text.trim_eq_self fun c hblank => ?_
    obtain ⟨hdigit, hdot, -⟩ := Text.ne_of_isBlank hblank
    exact Ipv4.not_mem_text (fun d hd => hdigit d (by omega)) hdot a
  simp [read?, htrim, Ipv4.read?_text]

theorem read?_v6 (a : Ipv6) : read? (String.ofList a.text) = some (ofIpv6 a) := by
  refine read?_eq_ofIpv6 ?_
  have htrim : Text.trim a.text = a.text := by
    refine Text.trim_eq_self fun c hblank => ?_
    obtain ⟨hdigit, -, hcolon⟩ := Text.ne_of_isBlank hblank
    exact Ipv6.not_mem_text hdigit hcolon a
  rw [String.toList_ofList, htrim, Ipv6.read?_text]

theorem read?_mapped (b : Ipv4) : read? ("::ffff:" ++ String.ofList b.text) = some (.v4 b) := by
  have htrim : Text.trim ("::ffff:".toList ++ b.text) = "::ffff:".toList ++ b.text := by
    refine Text.trim_eq_self fun c hblank => ?_
    obtain ⟨hdigit, hdot, hcolon⟩ := Text.ne_of_isBlank hblank
    have hletter : c ≠ 'f' := Ne.symm (hdigit 15 (by decide))
    have hfront : c ∉ "::ffff:".toList := by simp [hcolon, hletter]
    rw [List.mem_append, not_or]
    exact ⟨hfront, Ipv4.not_mem_text (fun d hd => hdigit d (by omega)) hdot b⟩
  have htext : ("::ffff:" ++ String.ofList b.text).toList = "::ffff:".toList ++ b.text := by simp
  have hread : Ipv6.read? (Text.trim ("::ffff:" ++ String.ofList b.text).toList) =
      some (.ofIpv4 b) := by
    rw [htext, htrim, Ipv6.read?_mapped]
  rw [read?_eq_ofIpv6 hread, ofIpv6_of_mapped (Ipv6.mapped?_ofIpv4 b)]

theorem read?_host (a : Address) : read? a.host = some a := by
  cases a with
  | v4 a => exact read?_v4 a
  | v6 a unmapped => exact (read?_v6 a).trans (congrArg some (ofIpv6_of_unmapped unmapped))

theorem host_inj {a b : Address} : a.host = b.host ↔ a = b := by
  refine ⟨fun h => ?_, fun h => congrArg host h⟩
  have hread := read?_host a
  rw [h, read?_host] at hread
  exact (Option.some.inj hread).symm

/-- The host as it stands in front of a port. -/
def hostText : Address → List Char
  | .v4 a => a.text
  | .v6 a _ => '[' :: a.text ++ [']']

theorem toList_endpoint (a : Address) (tcp : UInt16) :
    (a.endpoint tcp).toList = a.hostText ++ ':' :: Nat.toDigits 10 tcp.toNat := by
  cases a <;> simp [endpoint, hostText]

/-- Brackets tell the versions apart. -/
theorem hostText_inj {a b : Address} (h : a.hostText = b.hostText) : a = b := by
  have hbracket (b : Ipv4) (rest : List Char) : b.text ≠ '[' :: rest := by
    intro heq
    exact Ipv4.not_mem_text (by decide) (by decide) b (heq ▸ List.mem_cons_self)
  refine host_inj.mp ?_
  cases a with
  | v4 a =>
    cases b with
    | v4 b => exact congrArg String.ofList h
    | v6 b _ => exact absurd h (hbracket a _)
  | v6 a _ =>
    cases b with
    | v4 b => exact absurd h.symm (hbracket b _)
    | v6 b _ => exact congrArg String.ofList (List.append_cancel_right (List.cons.inj h).2)

theorem endpoint_inj {a b : Address} {tcp tcp' : UInt16} :
    a.endpoint tcp = b.endpoint tcp' ↔ a = b ∧ tcp = tcp' := by
  constructor
  · intro h
    have hcolon (n : Nat) : ':' ∉ Nat.toDigits 10 n :=
      Text.not_mem_toDigits (by decide) (by decide) n
    have htext := congrArg String.toList h
    rw [toList_endpoint, toList_endpoint] at htext
    obtain ⟨hhost, hport⟩ := Text.append_cons_inj (hcolon _) (hcolon _) htext
    exact ⟨hostText_inj hhost, UInt16.toNat_inj.mp (Text.toDigits_inj hport)⟩
  · rintro ⟨rfl, rfl⟩
    rfl

/-- Each address is read from its own text, and so texts are of one address just when these
are the same.  A text of version 6 that stands for an address of version 4 is as good as the
text of that one, however it is spelt.  An endpoint tells both the address and the port. -/
theorem texts_canonical :
    (∀ a : Address, read? a.host = some a) ∧
    (∀ s t : String, read? s = read? t ↔ (read? s).map host = (read? t).map host) ∧
    (∀ (s : String) (m : Ipv6) (b : Ipv4), Ipv6.read? (Text.trim s.toList) = some m →
      m.mapped? = some b →
        read? s = read? (String.ofList b.text) ∧ read? s = some (.v4 b)) ∧
    (∀ b : Ipv4, read? ("::ffff:" ++ String.ofList b.text) = some (.v4 b) ∧
      read? (String.ofList (Ipv6.ofIpv4 b).text) = some (.v4 b)) ∧
    ∀ (a b : Address) (p q : UInt16), a.endpoint p = b.endpoint q ↔ a = b ∧ p = q := by
  refine ⟨read?_host, fun s t => ?_, fun s m b hread hmapped => ?_, fun b => ?_,
    fun a b p q => endpoint_inj⟩
  · exact (Option.map_injective fun _ _ => host_inj.mp).eq_iff.symm
  · have hv4 : read? s = some (.v4 b) := by
      rw [read?_eq_ofIpv6 hread, ofIpv6_of_mapped hmapped]
    exact ⟨hv4.trans (read?_v4 b).symm, hv4⟩
  · refine ⟨read?_mapped b, ?_⟩
    rw [read?_v6, ofIpv6_of_mapped (Ipv6.mapped?_ofIpv4 b)]

/-- Two spellings of an address of version 6, one of them with white space, and a text of
version 6 for one of version 4. -/
theorem texts_canonical_spellings :
    read? "\tFD00:0:0:0::A:0001 " = read? "fd00::a:1" ∧
      Ipv6.read? (Text.trim " ::FFFF:A00:9".toList) = some (.ofIpv4 ⟨10, 0, 0, 9⟩) ∧
      (Ipv6.ofIpv4 ⟨10, 0, 0, 9⟩).mapped? = some ⟨10, 0, 0, 9⟩ ∧
      read? " ::FFFF:A00:9" = some (.v4 ⟨10, 0, 0, 9⟩) := by
  obtain ⟨-, hsame, hmapped, -⟩ := texts_canonical
  have hread : Ipv6.read? (Text.trim " ::FFFF:A00:9".toList) =
      some (.ofIpv4 ⟨10, 0, 0, 9⟩) := by decide
  have hstands : (Ipv6.ofIpv4 ⟨10, 0, 0, 9⟩).mapped? = some ⟨10, 0, 0, 9⟩ := by decide
  exact ⟨(hsame _ _).mpr (by decide), hread, hstands, (hmapped _ _ _ hread hstands).2⟩

end Address
end RedisKeeper
