import RedisKeeper.Json.Reading

/-
Readings that take a text off the front of another one.

`Takes` says all that such a reading does, its place included, so that readings are put
together as their texts are.  Strings, numbers, lists and objects take the text that they
are written as (`takes_string`, `takes_number`, `takes_list`, `takes_object`).
-/
namespace RedisKeeper
namespace Json
namespace Reading

variable {α β σ ι : Type} {x : Reading α} {f : α → Reading β} {s t rest : List Char} {a : α}
  {b : β} {c : Char}

/-- Whether a reading takes a text in front of another one, and what it makes of it. -/
def Takes (x : Reading α) (text : List Char) (a : α) (rest : List Char) : Prop :=
  ∀ place, x ⟨text ++ rest, place⟩ = .ok a ⟨rest, behind place text⟩

/-- Whether a text can stand behind a value. -/
def EndsValue (rest : List Char) : Prop := ∀ c ∈ rest.head?, c = ',' ∨ c = ']' ∨ c = '\x7d'

theorem endsValue_nil : EndsValue [] := by simp [EndsValue]

theorem endsValue_cons {c : Char} (h : c = ',' ∨ c = ']' ∨ c = '\x7d') (rest : List Char) :
    EndsValue (c :: rest) := by
  intro d hd
  obtain rfl : c = d := by simpa using hd
  exact h

/-! ## One thing after the other -/

theorem takes_pure (a : α) (rest : List Char) : Takes (pure a) [] a rest := fun _ => rfl

theorem Takes.bind (hx : Takes x s a (t ++ rest)) (hf : Takes (f a) t b rest) :
    Takes (x >>= f) (s ++ t) b rest := by
  intro place
  have hfirst := hx place
  have hthen := hf (behind place s)
  rw [← behind_append] at hthen
  rw [List.append_assoc]
  simp only [Bind.bind, EStateM.bind, hfirst, hthen]

/-- What follows takes nothing more. -/
theorem Takes.bind_nil (hx : Takes x s a rest) (hf : Takes (f a) [] b rest) :
    Takes (x >>= f) s b rest := by
  have hbind := Takes.bind (t := []) hx hf
  rwa [List.append_nil] at hbind

theorem Takes.bind_pure {g : α → β} (hx : Takes x s a rest) :
    Takes (x >>= fun a => pure (g a)) s (g a) rest :=
  hx.bind_nil (takes_pure (g a) rest)

theorem Takes.after_peek {f : Option Char → Reading β} (h : Takes (f (s ++ rest).head?) s b rest) :
    Takes (peek >>= f) s b rest :=
  fun place => h place

theorem Takes.after_here {f : Cursor → Reading β}
    (h : ∀ place, Takes (f ⟨s ++ rest, place⟩) s b rest) : Takes (here >>= f) s b rest :=
  fun place => h place place

theorem Takes.after_advance {f : Unit → Reading β} (h : Takes (f ()) s b rest) :
    Takes (advance >>= f) (c :: s) b rest :=
  fun place => h (place.past c c.utf8Size)

theorem takes_advance (c : Char) (rest : List Char) : Takes advance [c] () rest := fun _ => rfl

theorem Takes.located (h : Takes x s a rest) : Takes (located x) s a rest := by
  intro place
  rw [Reading.located, h place]

/-- The ending is taken behind what has been read. -/
theorem Takes.upTo {ending : Reading Unit} (hx : Takes x s a (t ++ rest))
    (hend : Takes ending t () rest) : Takes (upTo ending x) (s ++ t) a rest := by
  intro place
  have hpure : Takes (ending *> pure a) t a rest := hend.bind_nil (takes_pure a rest)
  rw [Reading.upTo, List.append_assoc, hx place]
  show (ending *> pure a) ⟨t ++ rest, behind place s⟩ = _
  rw [hpure, behind_append]

theorem takes_takeWhile {p : Char → Bool} (hs : ∀ c ∈ s, p c = true)
    (hrest : ∀ c ∈ rest.head?, p c = false) : Takes (takeWhile p) s s rest := by
  have hnone : rest.takeWhile p = [] ∧ rest.dropWhile p = rest := by
    cases rest with
    | nil => exact ⟨rfl, rfl⟩
    | cons c rest => simp [hrest c rfl]
  intro place
  rw [takeWhile, List.takeWhile_append_of_pos hs, List.dropWhile_append_of_pos hs, hnone.1,
    hnone.2, List.append_nil]

theorem Takes.after_next {f : Option Char → Reading β}
    (hspace : ∀ c ∈ (s ++ rest).head?, isSpace c = false)
    (h : Takes (f (s ++ rest).head?) s b rest) : Takes (next >>= f) s b rest := by
  intro place
  have hnone : takeWhile isSpace ⟨s ++ rest, place⟩ = .ok [] ⟨s ++ rest, place⟩ :=
    takes_takeWhile (s := []) (by simp) hspace place
  show (match (match takeWhile isSpace ⟨s ++ rest, place⟩ with
      | .ok _ s => peek s
      | .error e s => .error e s) with
    | .ok a s => f a s
    | .error e s => .error e s) = _
  rw [hnone]
  exact h place

theorem Takes.after_next_cons {f : Option Char → Reading β} (hspace : isSpace c = false)
    (h : Takes (f (some c)) (c :: s) b rest) : Takes (next >>= f) (c :: s) b rest := by
  refine Takes.after_next ?_ h
  intro d hd
  obtain rfl : c = d := by simpa using hd
  exact hspace

/-- What a whole text holds that a reading takes. -/
theorem Takes.ofText {text : String} (h : Takes x text.toList a []) :
    Reading.ofText x text = .ok a := by
  have hend : Takes textEnd [] () [] := Takes.after_next (by simp) (takes_pure () [])
  have hwhole : Takes (x <* textEnd) text.toList a [] := h.bind_nil hend.bind_pure
  have hrun := hwhole {}
  rw [List.append_nil] at hrun
  rw [Reading.ofText, hrun]

/-! ## Strings -/

variable {fuel : Nat} {soFar : List Char}

theorem takes_hexWord {n : Nat} (hn : n < 0x100) (rest : List Char) :
    Takes hexWord ['0', '0', Nat.digitChar (n / 16), Nat.digitChar (n % 16)] n rest := by
  have hhigh := Text.hexDigit?_digitChar (n / 16) (by omega)
  have hlow := Text.hexDigit?_digitChar (n % 16) (by omega)
  have hzero : Text.hexDigit? '0' = some 0 := by decide
  have hvalue : ((0 * 16 + 0) * 16 + n / 16) * 16 + n % 16 = n := by omega
  intro place
  simp [hexWord, List.mapM_cons, hzero, hhigh, hlow]
  omega

/-- A control character is escaped by its number. -/
theorem takes_unicodeEscape (hc : c.toNat < 0x20) (rest : List Char) :
    Takes unicodeEscape
      ['0', '0', Nat.digitChar (c.toNat / 16), Nat.digitChar (c.toNat % 16)] c rest := by
  refine (takes_hexWord (by omega) _).bind_nil ?_
  rw [if_neg (by omega), if_pos (by omega), Char.ofNat_toNat]
  exact takes_pure c rest

theorem takes_letterEscape {l : Char} (hl : l ≠ 'u') (h : letterEscape? l = some c)
    (rest : List Char) : Takes (escape id unicodeEscape) [l] c rest := by
  refine Takes.after_peek ?_
  split
  · rename_i heq
    simp at heq
  · rename_i heq
    exact absurd (by simpa using heq) hl
  · rename_i d _ heq
    obtain rfl : l = d := by simpa using heq
    rw [h]
    exact Takes.after_advance (takes_pure c rest)

theorem takes_stringTail_escaped (hescape : Takes (escape id unicodeEscape) s c (t ++ rest))
    {a : String} (h : Takes (stringTail fuel (c :: soFar)) t a rest) :
    Takes (stringTail (fuel + 1) soFar) ('\\' :: s ++ t) a rest := by
  rw [stringTail]
  exact Takes.after_peek (Takes.after_advance (hescape.bind h))

theorem takes_stringTail_plain (hquote : c ≠ '"') (hslash : c ≠ '\\')
    (hcontrol : ¬ c.toNat < 0x20) {a : String}
    (h : Takes (stringTail fuel (c :: soFar)) t a rest) :
    Takes (stringTail (fuel + 1) soFar) (c :: t) a rest := by
  rw [stringTail]
  refine Takes.after_peek ?_
  split
  · rename_i heq
    simp at heq
  · rename_i heq
    exact absurd (by simpa using heq) hquote
  · rename_i heq
    exact absurd (by simpa using heq) hslash
  · rename_i d _ _ heq
    obtain rfl : c = d := by simpa using heq
    rw [if_neg hcontrol]
    exact Takes.after_advance h

/-- What is written for a character is read as that character. -/
theorem takes_stringTail_char {a : String}
    (h : Takes (stringTail fuel (c :: soFar)) t a rest) :
    Takes (stringTail (fuel + 1) soFar) (escapedChar c ++ t) a rest := by
  unfold escapedChar
  split
  case h_8 hquote hslash _ _ _ _ _ =>
    split
    · rename_i hc
      exact takes_stringTail_escaped
        (Takes.after_peek (Takes.after_advance (takes_unicodeEscape hc _))) h
    · rename_i hc
      exact takes_stringTail_plain hquote hslash hc h
  all_goals exact takes_stringTail_escaped (takes_letterEscape (by decide) (by decide) _) h

theorem takes_stringTail (cs : List Char) (hfuel : cs.length < fuel) (rest : List Char) :
    Takes (stringTail fuel soFar) (cs.flatMap escapedChar ++ ['"'])
      (String.ofList (soFar.reverse ++ cs)) rest := by
  induction cs generalizing fuel soFar with
  | nil =>
    cases fuel with
    | zero => simp at hfuel
    | succ fuel =>
      rw [stringTail, List.append_nil]
      exact Takes.after_peek (Takes.after_advance (takes_pure _ rest))
  | cons c cs ih =>
    cases fuel with
    | zero => simp at hfuel
    | succ fuel =>
      have hrest : Takes (stringTail fuel (c :: soFar)) (cs.flatMap escapedChar ++ ['"'])
          (String.ofList ((c :: soFar).reverse ++ cs)) rest := ih (by simpa using hfuel)
      rw [List.reverse_cons, List.append_assoc, List.singleton_append] at hrest
      rw [List.flatMap_cons, List.append_assoc]
      exact takes_stringTail_char hrest

theorem length_le_flatMap_escapedChar (cs : List Char) :
    cs.length ≤ (cs.flatMap escapedChar).length := by
  induction cs with
  | nil => simp
  | cons c cs ih =>
    have hpos : 0 < (escapedChar c).length := by
      unfold escapedChar
      split
      case h_8 => split <;> exact Nat.zero_lt_succ _
      all_goals exact Nat.zero_lt_succ _
    rw [List.flatMap_cons, List.length_append, List.length_cons]
    omega

theorem takes_string (s : String) (rest : List Char) : Takes string (stringText s) s rest := by
  have hlength : s.toList.length < (s.toList.flatMap escapedChar ++ ['"'] ++ rest).length + 1 := by
    have hescaped := length_le_flatMap_escapedChar s.toList
    simp only [List.length_append]
    omega
  have htail : Takes (stringTail _ []) (s.toList.flatMap escapedChar ++ ['"'])
      (String.ofList ([].reverse ++ s.toList)) rest := takes_stringTail s.toList hlength rest
  refine Takes.after_advance (Takes.after_here fun place => ?_)
  simpa using htail

/-! ## Numbers -/

theorem EndsValue.not_isDigit (h : EndsValue rest) : ∀ c ∈ rest.head?, c.isDigit = false := by
  intro c hc
  rcases h c hc with rfl | rfl | rfl <;> rfl

theorem EndsValue.ne (h : EndsValue rest) (hc : c ≠ ',' ∧ c ≠ ']' ∧ c ≠ '\x7d') :
    rest.head? ≠ some c := by
  intro heq
  have := h c heq
  grind

theorem digitsValue_toDigits (n : Nat) : digitsValue (Nat.toDigits 10 n) = n := by
  have hvalue := Nat.ofDigitChars_toDigits (b := 10) (n := n) (by decide) (by decide)
  simpa only [digitsValue, Nat.ofDigitChars, Nat.mul_comm 10] using hvalue

/-- The digits of a number other than zero begin with one other than zero. -/
theorem exists_toDigits {n : Nat} (hn : 0 < n) :
    ∃ c cs, Nat.toDigits 10 n = c :: cs ∧ c ≠ '0' := by
  induction n using Nat.strongRecOn with
  | _ n ih =>
    rw [Nat.toDigits_eq_if (by decide)]
    split
    · rename_i hlt
      have hdigit : ∀ d < 10, 0 < d → Nat.digitChar d ≠ '0' := by decide
      exact ⟨Nat.digitChar n, [], rfl, hdigit n hlt hn⟩
    · obtain ⟨c, cs, hcs, hc⟩ := ih (n / 10) (by omega) (by omega)
      exact ⟨c, cs ++ [Nat.digitChar (n % 10)], by rw [hcs, List.cons_append], hc⟩

theorem isDigit_of_mem_toDigits {n : Nat} : ∀ c ∈ Nat.toDigits 10 n, c.isDigit = true :=
  fun _ => Nat.isDigit_of_mem_toDigits (by decide) (by decide)

theorem takes_wholePart (n : Nat) (fault : Fault) (hrest : EndsValue rest) :
    Takes (wholePart fault) (Nat.toDigits 10 n) (Nat.toDigits 10 n) rest := by
  refine Takes.after_peek ?_
  rcases Nat.eq_zero_or_pos n with rfl | hn
  · refine Takes.after_advance (Takes.after_peek ?_)
    have hnone : rest.head?.any Char.isDigit = false := by
      rw [Option.any_eq_false]
      exact hrest.not_isDigit
    rw [List.nil_append, if_neg (by rw [hnone]; decide)]
    exact takes_pure _ rest
  · obtain ⟨c, cs, hcs, hc⟩ := exists_toDigits hn
    have hdigits := takes_takeWhile (isDigit_of_mem_toDigits (n := n)) hrest.not_isDigit
    have hdigit : c.isDigit = true := isDigit_of_mem_toDigits (n := n) c (by simp [hcs])
    rw [hcs] at hdigits ⊢
    rw [if_neg (by simpa using hc)]
    refine Takes.after_peek ?_
    simpa [hdigit] using hdigits

theorem takes_minusSign_none (h : (s ++ rest).head? ≠ some '-') :
    Takes minusSign [] false (s ++ rest) := by
  refine Takes.after_peek ?_
  rw [List.nil_append, if_neg h]
  exact takes_pure false _

theorem takes_minusSign (rest : List Char) : Takes minusSign ['-'] true rest :=
  Takes.after_peek (Takes.after_advance (takes_pure true rest))

theorem takes_fractionPart_none (fault : Fault) (hrest : EndsValue rest) :
    Takes (fractionPart fault) [] none rest := by
  refine Takes.after_peek ?_
  rw [List.nil_append, if_neg (hrest.ne (by decide))]
  exact takes_pure none rest

theorem takes_exponentPart_none (zero : Bool) (hrest : EndsValue rest) :
    Takes (exponentPart zero) [] none rest := by
  have hsign : Takes exponentSign [] none rest := by
    refine Takes.after_peek ?_
    have hnone : (rest.head?.any fun c => c = 'e' || c = 'E') = false := by
      rw [Option.any_eq_false]
      intro c hc
      rcases hrest c hc with rfl | rfl | rfl <;> rfl
    rw [List.nil_append, if_neg (by rw [hnone]; decide)]
    exact takes_pure none rest
  exact hsign.bind_nil (takes_pure none rest)

/-- A whole number of a machine word, behind its sign. -/
theorem takes_number_of_sign {negative : Bool} {n : Int} {m : Nat}
    (hsign : Takes minusSign s negative (Nat.toDigits 10 m ++ rest))
    (hn : n = if negative then -(m : Int) else m) (hm : negative = true → m ≠ 0)
    (hleast : -0x8000000000000000 ≤ n) (hgreatest : n ≤ 0xffffffffffffffff)
    (hrest : EndsValue rest) :
    Takes number (s ++ Nat.toDigits 10 m) (Json.int n) rest := by
  refine hsign.bind ((takes_wholePart m _ hrest).bind_nil ?_)
  refine (takes_fractionPart_none _ hrest).bind_nil ((takes_exponentPart_none _ hrest).bind_nil ?_)
  have hzero : (!(negative && m == 0)) = true := by
    cases negative with
    | false => rfl
    | true => simpa using hm rfl
  simp only [digitsValue_toDigits, ← hn]
  simp only [Option.isNone_none, Bool.true_and, hzero, hleast, hgreatest, decide_true, if_true]
  exact takes_pure _ rest

theorem takes_number {n : Int} (hleast : -0x8000000000000000 ≤ n)
    (hgreatest : n ≤ 0xffffffffffffffff) (hrest : EndsValue rest) :
    Takes number (intText n) (.int n) rest := by
  cases n with
  | ofNat n =>
    have hplain : (Nat.toDigits 10 n ++ rest).head? ≠ some '-' := by
      intro heq
      cases hdigits : Nat.toDigits 10 n with
      | nil => exact Nat.toDigits_ne_nil hdigits
      | cons c cs =>
        have hdigit := isDigit_of_mem_toDigits (n := n) c (by simp [hdigits])
        rw [hdigits] at heq
        obtain rfl : c = '-' := by simpa using heq
        exact absurd hdigit (by decide)
    exact takes_number_of_sign (takes_minusSign_none hplain) (by simp) (by simp) hleast hgreatest
      hrest
  | negSucc n =>
    exact takes_number_of_sign (takes_minusSign _) (by simp; omega) (by simp) hleast hgreatest hrest

/-! ## One element after the other -/

/-- Takes in one thing after the other, as long as there are more.  Each takes one unit of
fuel. -/
def loop (more : Bool → Reading Bool) (item : σ → Reading σ) : Nat → Bool → σ → Reading σ
  | 0, _, soFar => pure soFar
  | fuel + 1, first, soFar => do
    if ← more first then loop more item fuel false (← item soFar) else return soFar

theorem itemsWith_eq_loop (item : σ → Reading σ) (fuel : Nat) (first : Bool) (soFar : σ) :
    itemsWith item fuel first soFar = loop moreItems item fuel first soFar := by
  induction fuel generalizing first soFar with
  | zero => rfl
  | succ fuel ih => simp only [itemsWith, loop, ih]

theorem membersWith_eq_loop (member : σ → String → Reading σ) (fuel : Nat) (first : Bool)
    (soFar : σ) :
    membersWith member fuel first soFar =
      loop moreMembers (fun soFar => string >>= member soFar) fuel first soFar := by
  induction fuel generalizing first soFar with
  | zero => rfl
  | succ fuel ih => simp only [membersWith, loop, ih, bind_assoc]

/-- How elements stand one after the other: with a comma between each two, a closing mark
behind them, and no element that could be taken for the mark. -/
structure Separates (more : Bool → Reading Bool) (close : Char) (Opens : List Char → Prop) :
    Prop where
  ends : ∀ first rest, Takes (more first) [] false (close :: rest)
  begins : ∀ text, Opens text → Takes (more true) [] true text
  goesOn : ∀ text, Opens text → Takes (more false) [','] true text

/-- Whether a text begins like an element of a list. -/
def OpensItem (text : List Char) : Prop := ∃ c cs, text = c :: cs ∧ isSpace c = false ∧ c ≠ ']'

def OpensMember (text : List Char) : Prop := ∃ cs, text = '"' :: cs

theorem separates_moreItems : Separates moreItems ']' OpensItem where
  ends first rest := Takes.after_next (by simp [isSpace]) (takes_pure false _)
  begins := by
    rintro _ ⟨c, cs, rfl, hspace, hclose⟩
    refine Takes.after_next (by simpa using hspace) ?_
    simpa [hclose] using takes_pure true _
  goesOn := by
    rintro _ ⟨c, cs, rfl, hspace, hclose⟩
    refine Takes.after_next_cons (by decide) (Takes.after_advance ?_)
    refine Takes.after_next (by simpa using hspace) ?_
    simpa [hclose] using takes_pure true _

theorem separates_moreMembers : Separates moreMembers '\x7d' OpensMember where
  ends first rest := Takes.after_next (by simp [isSpace]) (takes_pure false _)
  begins := by
    rintro _ ⟨cs, rfl⟩
    exact Takes.after_next (by simp [isSpace]) (takes_pure true _)
  goesOn := by
    rintro _ ⟨cs, rfl⟩
    exact Takes.after_next_cons (by decide)
      (Takes.after_advance (Takes.after_next (by simp [isSpace]) (takes_pure true _)))

section Loop

variable {more : Bool → Reading Bool} {close : Char} {Opens : List Char → Prop}
  {item : σ → Reading σ} {write : ι → List Char} {step : σ → ι → σ} {Due : σ → List ι → Prop}
  {soFar : σ} {is : List ι}

/-- Whether one element after the other is taken as it is written, given what is due. -/
structure TakesEach (item : σ → Reading σ) (write : ι → List Char) (step : σ → ι → σ)
    (Opens : List Char → Prop) (Due : σ → List ι → Prop) : Prop where
  opens : ∀ soFar i is rest, Due soFar (i :: is) → Opens (write i ++ rest)
  takes : ∀ soFar i is rest, Due soFar (i :: is) → EndsValue rest →
    Takes (item soFar) (write i) (step soFar i) rest
  due : ∀ soFar i is, Due soFar (i :: is) → Due (step soFar i) is

theorem commaSeparated_cons (t : List Char) (ts : List (List Char)) :
    commaSeparated (t :: ts) = t ++ ts.flatMap (',' :: ·) := by
  induction ts generalizing t with
  | nil => simp [commaSeparated]
  | cons u us ih => simp [commaSeparated, ih u]

theorem endsValue_behind (write : ι → List Char) (hclose : close = ']' ∨ close = '\x7d')
    (is : List ι) (rest : List Char) :
    EndsValue (is.flatMap (fun i => ',' :: write i) ++ close :: rest) := by
  cases is with
  | nil => exact endsValue_cons (.inr hclose) rest
  | cons i is => exact endsValue_cons (.inl rfl) _

variable (hmore : Separates more close Opens) (hitem : TakesEach item write step Opens Due)
  (hclose : close = ']' ∨ close = '\x7d')
include hmore hitem hclose

theorem takes_loop_other (hdue : Due soFar is) (hfuel : is.length ≤ fuel) (rest : List Char) :
    Takes (loop more item fuel false soFar) (is.flatMap fun i => ',' :: write i)
      (is.foldl step soFar) (close :: rest) := by
  induction is generalizing soFar fuel with
  | nil =>
    cases fuel with
    | zero => exact takes_pure soFar _
    | succ fuel => exact Takes.bind (s := []) (hmore.ends false rest) (takes_pure soFar _)
  | cons i is ih =>
    cases fuel with
    | zero => simp at hfuel
    | succ fuel =>
      have hends := endsValue_behind write hclose is rest
      have hlength : is.length ≤ fuel := by simpa using hfuel
      have hothers := ih (hitem.due soFar i is hdue) hlength
      have hopens := hitem.opens soFar i is
        ((is.flatMap fun i => ',' :: write i) ++ close :: rest) hdue
      rw [← List.append_assoc] at hopens
      exact Takes.bind (s := [',']) (hmore.goesOn _ hopens)
        ((hitem.takes soFar i is _ hdue hends).bind hothers)

theorem takes_loop (hdue : Due soFar is) (hfuel : is.length ≤ fuel) (rest : List Char) :
    Takes (loop more item fuel true soFar) (commaSeparated (is.map write))
      (is.foldl step soFar) (close :: rest) := by
  cases is with
  | nil =>
    cases fuel with
    | zero => exact takes_pure soFar _
    | succ fuel => exact Takes.bind (s := []) (hmore.ends true rest) (takes_pure soFar _)
  | cons i is =>
    cases fuel with
    | zero => simp at hfuel
    | succ fuel =>
      have hends := endsValue_behind write hclose is rest
      have hlength : is.length ≤ fuel := by simpa using hfuel
      have hothers := takes_loop_other hmore hitem hclose (hitem.due soFar i is hdue) hlength rest
      have htext : commaSeparated ((i :: is).map write) =
          write i ++ is.flatMap fun i => ',' :: write i := by
        rw [List.map_cons, commaSeparated_cons, List.flatMap_map]
      have hopens := hitem.opens soFar i is
        ((is.flatMap fun i => ',' :: write i) ++ close :: rest) hdue
      rw [← List.append_assoc] at hopens
      rw [htext]
      exact Takes.bind (s := []) (hmore.begins _ hopens)
        ((hitem.takes soFar i is _ hdue hends).bind hothers)

end Loop

/-! ## Lists and objects -/

theorem takes_listEnd (rest : List Char) : Takes listEnd [']'] () rest :=
  Takes.after_next_cons (by decide) (takes_advance _ rest)

theorem takes_objectEnd (rest : List Char) : Takes objectEnd ['\x7d'] () rest :=
  Takes.after_next_cons (by decide) (takes_advance _ rest)

theorem takes_colon (rest : List Char) : Takes colon [':'] () rest :=
  Takes.after_next_cons (by decide) (takes_advance _ rest)

theorem length_le_commaSeparated (write : ι → List Char) (is : List ι) :
    is.length ≤ (commaSeparated (is.map write)).length + 1 := by
  cases is with
  | nil => simp
  | cons i is =>
    rw [List.map_cons, commaSeparated_cons, List.length_append, List.flatMap_map]
    have hmore : is.length ≤ (is.flatMap fun i => ',' :: write i).length := by
      induction is with
      | nil => simp
      | cons j is ih =>
        rw [List.flatMap_cons, List.length_append, List.length_cons, List.length_cons]
        omega
    rw [List.length_cons]
    omega

theorem itemTexts_eq_map (items : List Json) : itemTexts items = items.map text := by
  induction items with
  | nil => rfl
  | cons item items ih => rw [itemTexts, ih, List.map_cons]

/-- A member as it is written in an object. -/
def memberText (member : String × Json) : List Char := stringText member.1 ++ ':' :: text member.2

theorem memberTexts_eq_map (members : List (String × Json)) :
    memberTexts members = members.map memberText := by
  induction members with
  | nil => rfl
  | cons member members ih => rw [memberTexts, ih, List.map_cons, memberText]

theorem takes_list {item : σ → Reading σ} {step : σ → Json → σ} {Due : σ → List Json → Prop}
    {items : List Json} (hitem : TakesEach item text step OpensItem Due) (start : σ)
    (hdue : Due start items) (rest : List Char) :
    Takes (list item start) (text (.arr items)) (items.foldl step start) rest := by
  rw [text, itemTexts_eq_map]
  refine Takes.upTo (Takes.after_advance (Takes.after_here fun place => ?_)) (takes_listEnd rest)
  have hlength := length_le_commaSeparated text items
  rw [itemsWith_eq_loop]
  exact takes_loop separates_moreItems hitem (.inl rfl) hdue
    (by simp only [List.length_append]; omega) rest

/-- Whether one member after the other is taken from behind its key as it is written, given
what is due. -/
structure TakesMembers (member : σ → String → Reading σ) (step : σ → String × Json → σ)
    (Due : σ → List (String × Json) → Prop) : Prop where
  takes : ∀ soFar m ms rest, Due soFar (m :: ms) → EndsValue rest →
    Takes (member soFar m.1) (':' :: text m.2) (step soFar m) rest
  due : ∀ soFar m ms, Due soFar (m :: ms) → Due (step soFar m) ms

section Members

variable {member : σ → String → Reading σ} {step : σ → String × Json → σ}
  {Due : σ → List (String × Json) → Prop} {members : List (String × Json)}
  (hmember : TakesMembers member step Due) (start : σ) (hdue : Due start members)
include hmember hdue

theorem takes_membersWith (hfuel : members.length ≤ fuel) (rest : List Char) :
    Takes (membersWith member fuel true start) (commaSeparated (members.map memberText))
      (members.foldl step start) ('\x7d' :: rest) := by
  have hitem : TakesEach (fun soFar => string >>= member soFar) memberText step OpensMember Due := {
    opens := fun soFar m ms rest _ => ⟨_, rfl⟩
    takes := fun soFar m ms rest hdue hrest =>
      (takes_string m.1 _).bind (hmember.takes soFar m ms rest hdue hrest)
    due := hmember.due }
  rw [membersWith_eq_loop]
  exact takes_loop separates_moreMembers hitem (.inr rfl) hdue hfuel rest

theorem takes_object (rest : List Char) :
    Takes (object member start) (text (.obj members)) (members.foldl step start) rest := by
  rw [text, memberTexts_eq_map]
  refine Takes.upTo (Takes.after_advance (Takes.after_here fun place => ?_)) (takes_objectEnd rest)
  have hlength := length_le_commaSeparated memberText members
  exact takes_membersWith hmember start hdue (by simp only [List.length_append]; omega) rest

end Members

end Reading
end Json
end RedisKeeper
