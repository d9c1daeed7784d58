import RedisKeeper.Json.Format
import RedisKeeper.Proofs.Json.Taking

/-
Formats that read back what is written.

`Format.Keeps` says of one value in JSON that its text is read by the shape and that it
stands for what was written.  A record keeps its fields if each of them does, so what a
whole resource keeps is put together as its format is.
-/
namespace RedisKeeper

/-! ## Entries in key order -/

namespace Keyed

variable {α : Type} {key : String} {value : α} {entries : List (String × α)}

theorem place_of_forall_lt (h : ∀ entry ∈ entries, entry.1 < key) :
    place key value entries = entries ++ [(key, value)] := by
  induction entries with
  | nil => rfl
  | cons entry rest ih =>
    obtain ⟨k, v⟩ := entry
    have hk : k < key := h (k, v) List.mem_cons_self
    have hne : k ≠ key := fun heq => String.lt_irrefl key (heq ▸ hk)
    have hnot : ¬ key < k := fun hlt => String.lt_irrefl k (String.lt_trans hk hlt)
    have hrest := ih fun entry hentry => h entry (List.mem_cons_of_mem _ hentry)
    rw [place, if_neg hne, if_neg hnot, hrest]
    rfl

theorem place_of_lt {k : String} {v : α} (h : key < k) :
    place key value ((k, v) :: entries) = (key, value) :: (k, v) :: entries := by
  have hne : k ≠ key := fun heq => String.lt_irrefl key (heq ▸ h)
  rw [place, if_neg hne, if_pos h]

/-- Entries that are in order already stay as they are. -/
theorem foldl_place (hsorted : Sorted entries) :
    entries.foldl (fun acc entry => place entry.1 entry.2 acc) [] = entries := by
  suffices h : ∀ before, Sorted (before ++ entries) →
      entries.foldl (fun acc entry => place entry.1 entry.2 acc) before = before ++ entries from
    h [] hsorted
  clear hsorted
  induction entries with
  | nil => intro before _; simp
  | cons entry rest ih =>
    intro before hbefore
    have hlt : ∀ e ∈ before, e.1 < entry.1 := fun e he =>
      (List.pairwise_append.mp hbefore).2.2 e he entry List.mem_cons_self
    rw [List.foldl_cons, place_of_forall_lt hlt, ih _ (by simpa [Sorted] using hbefore)]
    simp

theorem lookup_of_mem (hsorted : Sorted entries) (hmem : (key, value) ∈ entries) :
    entries.lookup key = some value := by
  induction entries with
  | nil => simp at hmem
  | cons entry rest ih =>
    obtain ⟨k, v⟩ := entry
    obtain ⟨hfirst, hrest⟩ := List.pairwise_cons.mp hsorted
    rcases List.mem_cons.mp hmem with heq | hmem
    · obtain ⟨rfl, rfl⟩ := Prod.mk.inj heq
      simp
    · have hne : k ≠ key := fun heq => String.lt_irrefl key (heq ▸ hfirst _ hmem)
      rw [lookup_cons, if_neg hne, ih hrest hmem]

theorem mem_of_lookup (h : entries.lookup key = some value) : (key, value) ∈ entries := by
  induction entries with
  | nil => simp at h
  | cons entry rest ih =>
    obtain ⟨k, v⟩ := entry
    rw [lookup_cons] at h
    split at h
    · rename_i hk
      obtain rfl := Option.some.inj h
      exact hk ▸ List.mem_cons_self
    · exact List.mem_cons_of_mem _ (ih h)

end Keyed

theorem StringMap.ofList_entries (m : StringMap) : StringMap.ofList m.entries = m := by
  have hentries : ∀ (entries : List (String × String)) (acc : StringMap),
      (acc.insertAll entries).entries =
        entries.foldl (fun acc entry => Keyed.place entry.1 entry.2 acc) acc.entries := by
    intro entries
    induction entries with
    | nil => intro acc; rfl
    | cons entry rest ih => intro acc; exact ih (acc.insert entry.1 entry.2)
  have hsame : (StringMap.ofList m.entries).entries = m.entries :=
    (hentries m.entries .empty).trans (Keyed.foldl_place m.sorted)
  generalize StringMap.ofList m.entries = n at hsame
  cases m
  cases n
  simpa using hsame

namespace Json

theorem get?_object_cons (key other : String) (value : Option Json)
    (members : List (String × Option Json)) :
    (object ((key, value) :: members)).get? other =
      (if key = other then value else none).or ((object members).get? other) := by
  by_cases h : key = other
  · subst h
    cases value with
    | none => simp
    | some value => simp
  · rw [get?_object_ne (Ne.symm h), if_neg h, Option.none_or]

/-- The members of an object as they are kept. -/
theorem exists_members (members : List (String × Option Json)) :
    ∃ kept, object members = .obj kept ∧ Keyed.Sorted kept ∧
      ∀ m ∈ kept, (m.1, some m.2) ∈ members := by
  induction members with
  | nil => exact ⟨[], rfl, List.Pairwise.nil, by simp⟩
  | cons member members ih =>
    obtain ⟨kept, hkept, hsorted, hmem⟩ := ih
    obtain ⟨key, _ | value⟩ := member
    · exact ⟨kept, hkept, hsorted, fun m hm => List.mem_cons_of_mem _ (hmem m hm)⟩
    · refine ⟨Keyed.place key value kept, ?_, Keyed.sorted_place key value hsorted, ?_⟩
      · rw [object, List.foldr_cons]
        rw [object] at hkept
        rw [Json.obj.inj hkept]
      · intro m hm
        rcases Keyed.mem_place hm with rfl | hm
        · exact List.mem_cons_self
        · exact List.mem_cons_of_mem _ (hmem m hm)

/-! ## Values that are read by a shape -/

open Reading

variable {α β : Type} {room : Nat} {ahead : Bool} {json : Json} {a : α} {key : String}

/-- Whether a value is no null and its text can stand as an element of a list. -/
def Stands (json : Json) : Prop :=
  ∃ c cs, json.text = c :: cs ∧ isSpace c = false ∧ c ≠ ']' ∧ c ≠ 'n'

theorem stands_str (s : String) : Stands (.str s) :=
  ⟨'"', _, rfl, by decide⟩

theorem stands_arr (items : List Json) : Stands (.arr items) :=
  ⟨'[', _, rfl, by decide⟩

theorem stands_obj (members : List (String × Json)) : Stands (.obj members) :=
  ⟨'\x7b', _, rfl, by decide⟩

/-- A whole number begins with a sign or a digit. -/
theorem exists_intText (n : Int) :
    ∃ c cs, intText n = c :: cs ∧ (c = '-' ∨ c.isDigit = true) := by
  cases n with
  | negSucc n => exact ⟨'-', _, rfl, .inl rfl⟩
  | ofNat n =>
    cases hdigits : Nat.toDigits 10 n with
    | nil => exact absurd hdigits Nat.toDigits_ne_nil
    | cons c cs =>
      exact ⟨c, cs, hdigits, .inr (isDigit_of_mem_toDigits (n := n) c (by simp [hdigits]))⟩

theorem not_blank_of_number {c : Char} (hc : c = '-' ∨ c.isDigit = true) :
    isSpace c = false ∧ c ≠ ']' ∧ c ≠ 'n' := by
  have hothers : ∀ d ∈ [' ', '\t', '\n', '\r', ']', 'n'], d ≠ '-' ∧ d.isDigit = false := by
    simp
  have hne : ∀ d ∈ [' ', '\t', '\n', '\r', ']', 'n'], c ≠ d := by
    rintro d hd rfl
    have hother := hothers c hd
    simp [hother] at hc
  refine ⟨?_, hne _ (by simp), hne _ (by simp)⟩
  simp only [List.forall_mem_cons] at hne
  simp [isSpace, hne]

theorem stands_int (n : Int) : Stands (.int n) := by
  obtain ⟨c, cs, htext, hc⟩ := exists_intText n
  exact ⟨c, cs, htext, not_blank_of_number hc⟩

theorem Stands.opensItem (h : Stands json) (rest : List Char) : OpensItem (json.text ++ rest) := by
  obtain ⟨c, cs, htext, hspace, hclose, -⟩ := h
  exact ⟨c, cs ++ rest, by rw [htext, List.cons_append], hspace, hclose⟩

/-- Whether a value stands in a text and is read from there by a shape, with so much room
for containers. -/
structure Shape.Keeps (shape : Shape) (room : Nat) (json : Json) : Prop where
  stands : Stands json
  takes : ∀ ahead rest, EndsValue rest → Takes (ofShape ahead room shape) json.text json rest

theorem ofShape_eq (ahead : Bool) (room : Nat) :
    ∃ inner, ofShape ahead room = byShape ahead inner := by
  cases room with
  | zero => exact ⟨none, rfl⟩
  | succ room => exact ⟨some (ofShape ahead room), rfl⟩

namespace Reading

variable {x : Reading Json} {y : Char → Reading α} {c : Char} {s rest : List Char}

theorem takes_starting (hspace : isSpace c = false) (h : Takes (y c) (c :: s) a rest) :
    Takes (starting y) (c :: s) a rest :=
  (Takes.after_next_cons hspace h).located

theorem takes_orNull (hjson : Stands json) (h : Takes x json.text json rest) :
    Takes (orNull x) json.text json rest := by
  obtain ⟨c, cs, htext, hspace, -, hnull⟩ := hjson
  rw [htext] at h ⊢
  refine Takes.after_next_cons hspace ?_
  rw [if_neg (by simpa using hnull)]
  exact h

theorem takes_stringAs {title : String} {read : String → Reading α} {s : String}
    (h : Takes (read s) [] a rest) : Takes (stringAs title read) (stringText s) a rest := by
  refine takes_starting (by decide) ?_
  exact (takes_string s _).bind_nil h

end Reading

namespace Shape

theorem keeps_anyText (room : Nat) (s : String) : anyText.Keeps room (.str s) where
  stands := stands_str s
  takes ahead rest _ := by
    obtain ⟨inner, hinner⟩ := ofShape_eq ahead room
    rw [hinner]
    exact takes_stringAs (takes_pure _ rest)

theorem keeps_choice {names : List String} {s : String} (hs : s ∈ names) (room : Nat) :
    (choice names).Keeps room (.str s) where
  stands := stands_str s
  takes ahead rest _ := by
    obtain ⟨inner, hinner⟩ := ofShape_eq ahead room
    rw [hinner]
    have hname : Takes (oneOf names) (stringText s) (.str s) rest := by
      refine takes_stringAs ?_
      rw [if_pos hs]
      exact takes_pure _ rest
    exact Takes.after_next_cons (by decide) hname

/-- A number in the range of a shape, which is no wider than a machine word. -/
theorem keeps_whole {title : String} {least greatest n : Int} (hleast : -0x8000000000000000 ≤ least)
    (hgreatest : greatest ≤ 0xffffffffffffffff) (hn : least ≤ n ∧ n ≤ greatest) (room : Nat) :
    (whole title least greatest).Keeps room (.int n) := by
  obtain ⟨c, cs, htext, hc⟩ := exists_intText n
  have hspace : isSpace c = false := (not_blank_of_number hc).1
  refine ⟨stands_int n, fun ahead rest hrest => ?_⟩
  obtain ⟨inner, hinner⟩ := ofShape_eq ahead room
  have hnumber := takes_number (n := n) (by omega) (by omega) hrest
  have hword : (Json.int n).text = c :: cs := htext
  rw [htext] at hnumber
  rw [hinner, hword]
  refine takes_starting hspace ?_
  rw [if_pos (by simpa using hc)]
  refine hnumber.bind_nil ?_
  simp only [if_pos hn]
  exact takes_pure _ rest

theorem keeps_list {item : Shape} {items : List Json} (h : ∀ i ∈ items, item.Keeps room i) :
    (list item).Keeps (room + 1) (.arr items) where
  stands := stands_arr items
  takes ahead rest hrest := by
    have hitem : TakesEach (fun soFar => return (← ofShape ahead room item) :: soFar) Json.text
        (fun soFar i => i :: soFar) OpensItem fun _ is => ∀ i ∈ is, item.Keeps room i := {
      opens := fun soFar i is rest hdue => (hdue i List.mem_cons_self).stands.opensItem rest
      takes := fun soFar i is rest hdue hrest =>
        ((hdue i List.mem_cons_self).takes ahead rest hrest).bind_pure
      due := fun soFar i is hdue j hj => hdue j (List.mem_cons_of_mem i hj) }
    have hread := (takes_list hitem [] h rest).bind_pure (g := fun read => Json.arr read.reverse)
    rw [List.foldl_flip_cons_eq_append', List.append_nil, List.reverse_reverse] at hread
    exact takes_starting (by decide) hread

/-- An object whose values are all of one shape, with its keys in order. -/
theorem keeps_map {value : Shape} {members : List (String × Json)}
    (hsorted : Keyed.Sorted members) (h : ∀ m ∈ members, value.Keeps room m.2) :
    (map value).Keeps (room + 1) (.obj members) where
  stands := stands_obj members
  takes ahead rest hrest := by
    have hmember : TakesMembers
        (fun soFar key => do
          colon
          return Keyed.place key (← ofShape ahead room value) soFar)
        (fun soFar m => Keyed.place m.1 m.2 soFar) fun _ ms => ∀ m ∈ ms, value.Keeps room m.2 := {
      takes := fun soFar m ms rest hdue hrest =>
        Takes.bind (s := [':']) (takes_colon _)
          ((hdue m List.mem_cons_self).takes ahead rest hrest).bind_pure
      due := fun soFar m ms hdue m' hm' => hdue m' (List.mem_cons_of_mem m hm') }
    have hread := (takes_object hmember [] h rest).bind_pure (g := fun read => Json.obj read)
    rw [Keyed.foldl_place hsorted] at hread
    exact takes_starting (by decide) hread

/-! ### Records -/

variable {style : Style} {fields : FieldShapes} {members : List (String × Json)}

/-- Whether a member is given under the key of a field, as its shape wants it. -/
def Knows (fields : FieldShapes) (room : Nat) (m : String × Json) : Prop :=
  ∃ presence shape, fields.lookup m.1 = some (presence, shape) ∧ presence.late = false ∧
    shape.Keeps room m.2

theorem Knows.takes_field {m : String × Json} {soFar : FieldValues} {rest : List Char}
    (h : Knows fields room m) (hfresh : soFar.lookup m.1 = none) (hrest : EndsValue rest) :
    Takes (field (ofShape ahead room) style fields soFar m.1) (':' :: m.2.text) (m :: soFar)
      rest := by
  obtain ⟨presence, shape, hlookup, hlate, hshape⟩ := h
  have hvalue := hshape.takes ahead rest hrest
  rw [field, hlookup]
  simp only [hlate, hfresh, Option.isSome_none, Bool.and_false, Bool.false_eq_true, if_false]
  refine Takes.bind (s := [':']) (takes_colon _) ?_
  split
  · exact (takes_orNull hshape.stands hvalue).bind_pure (g := fun value => (m.1, value) :: soFar)
  · exact hvalue.bind_pure (g := fun value => (m.1, value) :: soFar)

theorem complete_eq (hearly : ∀ f ∈ fields, f.2.1.late = false)
    (hneeded : ∀ f ∈ fields, f.2.1.need = .always → f.1 ∈ members.map (·.1)) :
    complete fields members = pure () := by
  rw [complete]
  split
  · rename_i hfound
    have hlate := hearly _ (List.mem_of_find?_eq_some hfound)
    have hrepeated := List.find?_some hfound
    simp only [Bool.and_eq_true] at hrepeated
    exact absurd (hlate.symm.trans hrepeated.1) Bool.false_ne_true
  · split
    · rename_i hfound
      have hthere := hneeded _ (List.mem_of_find?_eq_some hfound)
      have hmissing := List.find?_some hfound
      simp only [Bool.and_eq_true, decide_eq_true_eq] at hmissing
      exact absurd (hthere hmissing.1) hmissing.2
    · rfl

theorem keeps_record {title : String} (hsorted : Keyed.Sorted members)
    (hknown : ∀ m ∈ members, Knows fields room m) (hearly : ∀ f ∈ fields, f.2.1.late = false)
    (hneeded : ∀ f ∈ fields, f.2.1.need = .always → f.1 ∈ members.map (·.1)) :
    (record title style fields).Keeps (room + 1) (.obj members) where
  stands := stands_obj members
  takes ahead rest hrest := by
    have hmember : TakesMembers (field (ofShape ahead room) style fields)
        (fun soFar m => m :: soFar) fun soFar ms =>
          Keyed.Sorted ms ∧ ∀ m ∈ ms, Knows fields room m ∧ soFar.lookup m.1 = none := {
      takes := fun soFar m ms rest hdue hrest =>
        have hm := hdue.2 m List.mem_cons_self
        hm.1.takes_field hm.2 hrest
      due := fun soFar m ms hdue => by
        obtain ⟨hfirst, hsorted⟩ := List.pairwise_cons.mp hdue.1
        refine ⟨hsorted, fun m' hm' => ?_⟩
        obtain ⟨hknown, hfresh⟩ := hdue.2 m' (List.mem_cons_of_mem m hm')
        have hne : m'.1 ≠ m.1 := fun heq => String.lt_irrefl m.1 (heq ▸ hfirst m' hm')
        refine ⟨hknown, ?_⟩
        rw [List.lookup_cons, beq_false_of_ne hne]
        exact hfresh }
    have hfields : Takes (fieldsOf (ofShape ahead room) style fields) (Json.obj members).text
        (.obj members) rest := by
      rw [Json.text, memberTexts_eq_map]
      refine Takes.upTo (Takes.after_advance (Takes.after_here fun place => ?_))
        (takes_objectEnd rest)
      have hlength : members.length ≤
          (commaSeparated (members.map memberText) ++ (['\x7d'] ++ rest)).length + 1 := by
        have htexts := length_le_commaSeparated memberText members
        simp only [List.length_append]
        omega
      have hmembers := takes_membersWith hmember [] ⟨hsorted, fun m hm => ⟨hknown m hm, rfl⟩⟩
        hlength rest
      rw [List.foldl_flip_cons_eq_append', List.append_nil] at hmembers
      have hmissing : ∀ f ∈ fields, f.2.1.need = .always → f.1 ∈ members.reverse.map (·.1) := by
        simpa using hneeded
      refine hmembers.bind_nil ?_
      rw [complete_eq hearly hmissing, List.reverse_reverse, Keyed.foldl_place hsorted]
      exact takes_pure _ _
    exact takes_starting (by decide) hfields

end Shape

/-! ## Values that a format reads back -/

/-- Whether a value in JSON is read by a format, and what it stands for. -/
structure Format.Keeps (f : Format α) (room : Nat) (json : Json) (a : α) : Prop where
  shape : f.shape.Keeps room json
  decode : f.decode json = some a

/-- Whether the fields of a record are found in an object, and what they amount to. -/
structure Fields.Keeps (fs : Fields α) (room : Nat) (json : Json) (a : α) : Prop where
  /-- No field waits for the end of the record. -/
  early : ∀ f ∈ fs.shapes, f.2.1.late = false
  needed : ∀ f ∈ fs.shapes, f.2.1.need = .always → (json.get? f.1).isSome = true
  shape : ∀ f ∈ fs.shapes, ∀ value, json.get? f.1 = some value → f.2.2.Keeps room value
  decode : fs.decode ⟨json.get?, false⟩ = some a

namespace Format.Keeps

variable {f : Format α}

/-- The text of a value that is kept is read as what the value stands for. -/
theorem read (h : f.Keeps depthLimit json a) : f.read json.write = .ok a := by
  refine Takes.ofText ?_
  rw [write, String.toList_ofList]
  refine (h.shape.takes false [] endsValue_nil).bind_nil ?_
  rw [h.decode]
  exact takes_pure a []

theorem text (room : Nat) (s : String) : Format.text.Keeps room (.str s) s :=
  ⟨Shape.keeps_anyText room s, rfl⟩

theorem int32 (room : Nat) (n : Int32) : Format.int32.Keeps room (ofInt32 n) n := by
  have hleast := n.le_toInt
  have hgreatest := n.toInt_lt
  refine ⟨Shape.keeps_whole (by decide) (by decide) ⟨by omega, by omega⟩ room, ?_⟩
  show (if -0x80000000 ≤ n.toInt ∧ n.toInt < 0x80000000 then some (Int32.ofInt n.toInt)
    else none) = some n
  rw [if_pos ⟨by omega, by omega⟩, Int32.ofInt_toInt]

theorem int64 (room : Nat) (n : Int64) : Format.int64.Keeps room (ofInt64 n) n := by
  have hleast := n.le_toInt
  have hgreatest := n.toInt_lt
  refine ⟨Shape.keeps_whole (by decide) (by decide) ⟨by omega, by omega⟩ room, ?_⟩
  show (if -0x8000000000000000 ≤ n.toInt ∧ n.toInt < 0x8000000000000000
    then some (Int64.ofInt n.toInt) else none) = some n
  rw [if_pos ⟨by omega, by omega⟩, Int64.ofInt_toInt]

theorem list {write : α → Json} {as : List α} (h : ∀ a ∈ as, f.Keeps room (write a) a) :
    (Format.list f).Keeps (room + 1) (.arr (as.map write)) as := by
  refine ⟨Shape.keeps_list (List.forall_mem_map.mpr fun a ha => (h a ha).shape), ?_⟩
  show all? f.decode (as.map write) = some as
  induction as with
  | nil => rfl
  | cons a as ih =>
    rw [List.map_cons, all?, (h a List.mem_cons_self).decode,
      ih fun b hb => h b (List.mem_cons_of_mem a hb)]
    rfl

theorem textMap (room : Nat) (m : StringMap) : Format.textMap.Keeps (room + 1) (ofMap m) m := by
  have hsorted : Keyed.Sorted (m.entries.map fun entry => (entry.1, Json.str entry.2)) :=
    List.pairwise_map.mpr m.sorted
  refine ⟨Shape.keeps_map hsorted
    (List.forall_mem_map.mpr fun entry _ => Shape.keeps_anyText room entry.2), ?_⟩
  have hall : ∀ entries : List (String × String),
      all? (fun member : String × Json => member.2.asString.map (member.1, ·))
        (entries.map fun entry => (entry.1, .str entry.2)) = some entries := by
    intro entries
    induction entries with
    | nil => rfl
    | cons entry entries ih =>
      rw [List.map_cons, all?, ih]
      rfl
  show (all? _ (m.entries.map fun entry => (entry.1, Json.str entry.2))).map StringMap.ofList =
    some m
  rw [hall, Option.map_some, StringMap.ofList_entries]

end Format.Keeps

namespace Fields.Keeps

variable {f : Format α} {write : α → Json} {value : Json} {default : α}

theorem map {fs : Fields α} (g : α → β) (h : fs.Keeps room json a) :
    (g <$> fs).Keeps room json (g a) where
  early := h.early
  needed := h.needed
  shape := h.shape
  decode := congrArg (Option.map g) h.decode

theorem seq {fs : Fields (α → β)} {gs : Fields α} {g : α → β} (hfs : fs.Keeps room json g)
    (hgs : gs.Keeps room json a) : (fs <*> gs).Keeps room json (g a) where
  early := List.forall_mem_append.mpr ⟨hfs.early, hgs.early⟩
  needed := List.forall_mem_append.mpr ⟨hfs.needed, hgs.needed⟩
  shape := List.forall_mem_append.mpr ⟨hfs.shape, hgs.shape⟩
  decode := by
    show (fs.decode _).bind (fun g => (gs.decode _).map g) = _
    rw [hfs.decode, Option.bind_some, hgs.decode, Option.map_some]

theorem single {presence : Presence} {shape : Shape} {decode : Record → Option α}
    (hlate : presence.late = false)
    (hneeded : presence.need = .always → (json.get? key).isSome = true)
    (hshape : ∀ value, json.get? key = some value → shape.Keeps room value)
    (hdecode : decode ⟨json.get?, false⟩ = some a) :
    (⟨[(key, presence, shape)], decode⟩ : Fields α).Keeps room json a where
  early := List.forall_mem_singleton.mpr hlate
  needed := List.forall_mem_singleton.mpr hneeded
  shape := List.forall_mem_singleton.mpr hshape
  decode := hdecode

/-- A field that is always written. -/
theorem required (hget : json.get? key = some value) (hf : f.Keeps room value a) :
    (Fields.required key f).Keeps room json a := by
  refine single rfl (fun _ => by rw [hget]; rfl) (fun found hfound => ?_) ?_
  · obtain rfl := Option.some.inj (hget.symm.trans hfound)
    exact hf.shape
  · show (json.get? key).bind f.decode = some a
    rw [hget, Option.bind_some, hf.decode]

theorem defaulted (hget : json.get? key = some value) (hf : f.Keeps room value a) :
    (Fields.defaulted key default f).Keeps room json a := by
  refine single rfl (by rintro ⟨⟩) (fun found hfound => ?_) ?_
  · obtain rfl := Option.some.inj (hget.symm.trans hfound)
    exact hf.shape
  · simp only [Record.defaulted, hget]
    exact hf.decode

theorem orNull_of_stands (hjson : Stands json) (hf : f.decode json = some a) :
    orNull f.decode json = some (some a) := by
  obtain ⟨c, cs, htext, -, -, hnull⟩ := hjson
  cases json with
  | null => exact absurd (List.cons.inj htext).1.symm hnull
  | _ => exact congrArg (Option.map some) hf

section Option

variable {x : Option α} (hget : json.get? key = x.map write)
  (hf : ∀ a ∈ x, f.Keeps room (write a) a)
include hget hf

theorem shape_of_map (value : Json) (hvalue : json.get? key = some value) :
    f.shape.Keeps room value := by
  obtain ⟨a, ha, rfl⟩ := Option.map_eq_some_iff.mp (hget.symm.trans hvalue)
  exact (hf a ha).shape

theorem decode_of_map :
    (match json.get? key with
      | none => some none
      | some json => orNull f.decode json) = some x := by
  rw [hget]
  cases x with
  | none => rfl
  | some a => exact orNull_of_stands (hf a rfl).shape.stands (hf a rfl).decode

/-- A field that is written if it has a value. -/
theorem optional : (Fields.optional key f).Keeps room json x :=
  single rfl (by rintro ⟨⟩) (shape_of_map hget hf) (decode_of_map hget hf)

theorem nullable : (Fields.nullable key f).Keeps room json x :=
  single rfl (by rintro ⟨⟩) (shape_of_map hget hf) (decode_of_map hget hf)

end Option

end Fields.Keeps

/-- Whether all that is written of a record stands under the keys of its fields. -/
def Fields.covers (fs : Fields α) (members : List (String × Option Json)) : Bool :=
  (members.map Prod.fst).all fun key => key ∈ fs.shapes.map Prod.fst

theorem Format.Keeps.declared {fs : Fields α} {members : List (String × Option Json)}
    (hcovers : fs.covers members = true) (h : fs.Keeps room (object members) a) (title : String) :
    (Format.declared title fs).Keeps (room + 1) (object members) a := by
  obtain ⟨kept, hkept, hsorted, hmem⟩ := exists_members members
  rw [hkept] at h ⊢
  have hknown : ∀ m ∈ kept, Shape.Knows fs.shapes room m := by
    intro m hm
    have hkey : m.1 ∈ fs.shapes.map Prod.fst := by
      simpa using List.all_eq_true.mp hcovers m.1 (List.mem_map_of_mem (hmem m hm))
    cases hlookup : fs.shapes.lookup m.1 with
    | none =>
      obtain ⟨f, hf, heq⟩ := List.mem_map.mp hkey
      have hnot := List.lookup_eq_none_iff.mp hlookup f hf
      simp [heq] at hnot
    | some field =>
      obtain ⟨before, after, hsplit, -⟩ := List.lookup_eq_some_iff.mp hlookup
      have hfield : (m.1, field) ∈ fs.shapes := by simp [hsplit]
      exact ⟨field.1, field.2, hlookup, h.early _ hfield,
        h.shape _ hfield m.2 (Keyed.lookup_of_mem hsorted hm)⟩
  have hneeded : ∀ f ∈ fs.shapes, f.2.1.need = .always → f.1 ∈ kept.map (·.1) := by
    intro f hf hneed
    obtain ⟨value, hvalue⟩ := Option.isSome_iff_exists.mp (h.needed f hf hneed)
    exact List.mem_map_of_mem (Keyed.mem_of_lookup hvalue)
  exact ⟨Shape.keeps_record hsorted hknown h.early hneeded, h.decode⟩

/-- Whether whatever is written comes back as it was, as a value in JSON and as a text, and
whatever is accepted comes back as what it was taken for. -/
structure Format.Lossless (f : Format α) (write : α → Json) : Prop where
  decode : ∀ a, f.decode (write a) = some a
  read : ∀ a, f.read (write a).write = .ok a
  decode_again : ∀ json a, f.decode json = some a → f.decode (write a) = f.decode json
  read_again : ∀ text a, f.read text = .ok a → f.read (write a).write = f.read text

theorem Format.Lossless.of_keeps {f : Format α} {write : α → Json}
    (h : ∀ a, f.Keeps depthLimit (write a) a) : f.Lossless write where
  decode a := (h a).decode
  read a := (h a).read
  decode_again _ a hjson := (h a).decode.trans hjson.symm
  read_again _ a htext := (h a).read.trans htext.symm

end Json
end RedisKeeper
