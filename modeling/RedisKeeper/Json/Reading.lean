import RedisKeeper.Decimal.Rounded
import RedisKeeper.Json.Fault
import RedisKeeper.Text.Basic

/-
Reading JSON text from the front.

A reading takes characters off a text, and knows the place up to which it has come,
also when it fails.  A fault is told at the end of what has been read, or one byte
further on where the next byte is to blame.  A fault of meaning is told without a
place and gets it from what is being read around it.

A number is an `int` when it has neither fraction nor exponent and lies between
the least signed and the greatest unsigned 64-bit word; `-0` is a `decimal`, and
any other `decimal` is a double.
-/
namespace RedisKeeper
namespace Json

/-- What is left of a text, and the place where it begins. -/
structure Cursor where
  rest : List Char
  place : Place := {}

abbrev Reading (α : Type) := EStateM Complaint Cursor α

namespace Reading

variable {α σ : Type}

/-! ## Faults and places -/

/-- A fault at the end of what has been read. -/
def fail (fault : Fault) : Reading α := fun s => .error ⟨fault, some s.place⟩ s

/-- A fault some bytes further on. -/
def failAfter (bytes : Nat) (fault : Fault) : Reading α := fun s =>
  .error ⟨fault, some (s.place.further bytes s.rest)⟩ s

/-- A fault of the next byte. -/
def failNext (fault : Fault) : Reading α := failAfter 1 fault

/-- A fault of meaning. -/
def unfit (fault : Fault) : Reading α := throw ⟨fault, none⟩

/-- Gives a fault of meaning the place up to which has been read. -/
def located (x : Reading α) : Reading α := fun s =>
  match x s with
  | .error ⟨fault, none⟩ s => .error ⟨fault, some s.place⟩ s
  | result => result

/-- Reads something and then its end.  The end is passed over, as far as it is in
order, also after a fault. -/
def upTo (ending : Reading Unit) (x : Reading α) : Reading α := fun s =>
  match x s with
  | .ok a s => (ending *> pure a) s
  | .error complaint s =>
    match ending s with
    | .ok _ s | .error _ s => .error complaint s

/-- What is left of the text. -/
def here : Reading Cursor := get

/-- Reads something from another place on, and then goes on here. -/
def elsewhere (place : Cursor) (x : Reading α) : Reading α := do
  let back ← here
  EStateM.set place
  let a ← x
  EStateM.set back
  return a

/-! ## Characters -/

def peek : Reading (Option Char) := fun s => .ok s.rest.head? s

/-- Takes one character. -/
def advance : Reading Unit := fun s =>
  match s.rest with
  | [] => .ok () s
  | c :: rest => .ok () ⟨rest, s.place.past c c.utf8Size⟩

/-- The place behind some characters. -/
def behind (place : Place) (cs : List Char) : Place :=
  cs.foldl (fun place c => place.past c c.utf8Size) place

theorem behind_append (place : Place) (cs ds : List Char) :
    behind place (cs ++ ds) = behind (behind place cs) ds :=
  List.foldl_append

/-- Takes characters as long as they are of some kind. -/
def takeWhile (p : Char → Bool) : Reading (List Char) := fun s =>
  let taken := s.rest.takeWhile p
  .ok taken ⟨s.rest.dropWhile p, behind s.place taken⟩

def isSpace (c : Char) : Bool := c = ' ' || c = '\t' || c = '\n' || c = '\r'

/-- The next character behind white space. -/
def next : Reading (Option Char) := do
  let _ ← takeWhile isSpace
  peek

/-- Takes the rest of a word. -/
def word : List Char → Reading Unit
  | [] => pure ()
  | c :: more => do
    match ← peek with
    | none => fail (.cut .value)
    | some d =>
      if c = d then
        advance
        word more
      else failNext .noWord

/-! ## Strings -/

/-- Four hexadecimal digits.  Four bytes of anything else are a fault behind them. -/
def hexWord : Reading Nat := fun s =>
  match (s.rest.take 4).mapM Text.hexDigit? with
  | some [a, b, c, d] =>
    .ok (((a * 16 + b) * 16 + c) * 16 + d)
      ⟨s.rest.drop 4, behind s.place (s.rest.take 4)⟩
  | _ =>
    if ((s.rest.take 4).map Char.utf8Size).foldl (· + ·) 0 < 4 then
      .error ⟨.cut .string, some (behind s.place s.rest)⟩ s
    else failAfter 4 .escape s

/-- Takes a character of the mark that has to stand between the halves of a surrogate
pair. -/
def pairMark (c : Char) : Reading Unit := do
  match ← peek with
  | none => fail (.cut .string)
  | some d => if c = d then advance else failNext .tornPair

/-- What an escape behind `\u` stands for. -/
def unicodeEscape : Reading Char := do
  let high ← hexWord
  if 0xdc00 ≤ high ∧ high ≤ 0xdfff then fail .surrogate
  else if high < 0xd800 ∨ 0xdfff < high then return Char.ofNat high
  else
    pairMark '\\'
    pairMark 'u'
    let low ← hexWord
    if low < 0xdc00 ∨ 0xdfff < low then fail .surrogate
    else return Char.ofNat (0x10000 + (high - 0xd800) * 0x400 + (low - 0xdc00))

/-- What a one-letter escape stands for. -/
def letterEscape? : Char → Option Char
  | '"' => some '"'
  | '\\' => some '\\'
  | '/' => some '/'
  | 'b' => some '\x08'
  | 'f' => some '\x0c'
  | 'n' => some '\n'
  | 'r' => some '\r'
  | 't' => some '\t'
  | _ => none

/-- Reads what stands behind a backslash.  What a letter amounts to and how
hexadecimal digits are read is given. -/
def escape (letter : Char → α) (unicode : Reading α) : Reading α := do
  match ← peek with
  | none => fail (.cut .string)
  | some 'u' =>
    advance
    unicode
  | some c =>
    match letterEscape? c with
    | some d =>
      advance
      return letter d
    | none => failNext .escape

/-- The string up to the closing quote, behind the characters so far, the last one
first.  Each character of the text takes at most one unit of fuel. -/
def stringTail : Nat → List Char → Reading String
  | 0, _ => fail (.cut .string)
  | fuel + 1, soFar => do
    match ← peek with
    | none => fail (.cut .string)
    | some '"' =>
      advance
      return String.ofList soFar.reverse
    | some '\\' =>
      advance
      let c ← escape id unicodeEscape
      stringTail fuel (c :: soFar)
    | some c =>
      if c.toNat < 0x20 then failNext .control
      else
        advance
        stringTail fuel (c :: soFar)

/-- A string from its opening quote on. -/
def string : Reading String := do
  advance
  stringTail ((← here).rest.length + 1) []

/-- Passes over a string up to the closing quote.  It may hold half of a surrogate
pair. -/
def skipStringTail : Nat → Reading Unit
  | 0 => fail (.cut .string)
  | fuel + 1 => do
    match ← peek with
    | none => fail (.cut .string)
    | some '"' => advance
    | some '\\' =>
      advance
      escape (fun _ => ()) (discard hexWord)
      skipStringTail fuel
    | some c =>
      if c.toNat < 0x20 then fail .control
      else
        advance
        skipStringTail fuel

def skipString : Reading Unit := do
  advance
  skipStringTail ((← here).rest.length + 1)

/-! ## Numbers -/

def digitsValue (digits : List Char) : Nat :=
  digits.foldl (fun acc c => acc * 10 + (c.toNat - '0'.toNat)) 0

/-- Takes a minus sign, if there is one. -/
def minusSign : Reading Bool := do
  if (← peek) = some '-' then
    advance
    return true
  else return false

/-- Takes digits, at least one.  What is wrong where the text stops is given. -/
def someDigits (atEnd : Fault) : Reading (List Char) := do
  match ← peek with
  | none => fail atEnd
  | some c => if c.isDigit then takeWhile Char.isDigit else failNext .number

/-- The whole part of a number: a single zero, or digits that start with another
one. -/
def wholePart (atEnd : Fault) : Reading (List Char) := do
  if (← peek) = some '0' then
    advance
    if (← peek).any Char.isDigit then failNext .number else return ['0']
  else someDigits atEnd

/-- The digits behind a decimal point, if there is one. -/
def fractionPart (atEnd : Fault) : Reading (Option (List Char)) := do
  if (← peek) = some '.' then
    advance
    return some (← someDigits atEnd)
  else return none

/-- Whether an exponent follows, and if so, its sign. -/
def exponentSign : Reading (Option Bool) := do
  if (← peek).any fun c => c = 'e' || c = 'E' then
    advance
    match ← peek with
    | some '-' =>
      advance
      return some true
    | some '+' =>
      advance
      return some false
    | _ => return some false
  else return none

/-- The number that digits make behind a number, nothing as soon as it does not fit
32 bits.  Each digit takes one unit of fuel. -/
def smallNumber : Nat → Nat → Reading (Option Nat)
  | 0, n => pure (some n)
  | fuel + 1, n => do
    match (← peek).filter Char.isDigit with
    | none => return some n
    | some c =>
      advance
      let n := digitsValue [c] + n * 10
      if 0x7fffffff < n then return none else smallNumber fuel n

/-- The power of ten of a number that is zero or not.  Too great a power is a fault
of the digit with which it becomes so, unless it does not matter. -/
def exponentPart (zero : Bool) : Reading (Option Int) := do
  match ← exponentSign with
  | none => return none
  | some negative =>
    match ← peek with
    | none => fail (.cut .value)
    | some c => if !c.isDigit then failNext .number
    match ← smallNumber ((← here).rest.length) 0 with
    | some n => return some (if negative then -n else n)
    | none =>
      if negative || zero then
        let _ ← takeWhile Char.isDigit
        return some (if negative then -0x7fffffff else 0)
      else fail .tooLarge

def number : Reading Json := do
  let negative ← minusSign
  let whole ← wholePart (.cut .value)
  let fraction ← fractionPart (.cut .value)
  let digits := whole ++ fraction.getD []
  let exponent ← exponentPart (digits.all (· = '0'))
  let size := digitsValue whole
  let signed : Int := if negative then -size else size
  let integral := fraction.isNone && exponent.isNone && !(negative && size == 0)
  if integral && -0x8000000000000000 ≤ signed && signed ≤ 0xffffffffffffffff then
    return .int signed
  else
    match Decimal.read? whole (fraction.getD []) (exponent.getD 0) with
    | some parts => return .decimal negative parts.digits parts.exponent
    | none => fail .tooLarge

/-- Passes over a number, whatever its size. -/
def skipNumber : Reading Unit := do
  let _ ← minusSign
  let _ ← wholePart .number
  let _ ← fractionPart .number
  if (← exponentSign).isSome then
    let _ ← someDigits .number

/-! ## Lists and objects -/

/-- Whether another element of a list follows. -/
def moreItems (first : Bool) : Reading Bool := do
  match ← next with
  | none => fail (.cut .list)
  | some ']' => return false
  | some c =>
    if first then return true
    else if c = ',' then
      advance
      match ← next with
      | none => fail (.cut .value)
      | some ']' => failNext .lastComma
      | some _ => return true
    else failNext .noListEnd

/-- Whether another member of an object follows. -/
def moreMembers (first : Bool) : Reading Bool := do
  match ← next with
  | none => fail (.cut .object)
  | some '\x7d' => return false
  | some c =>
    if first then if c = '"' then return true else failNext .noKey
    else if c = ',' then
      advance
      match ← next with
      | none => fail (.cut .value)
      | some '"' => return true
      | some '\x7d' => failNext .lastComma
      | some _ => failNext .noKey
    else failNext .noObjectEnd

/-- Takes the end of a list, and a comma that stands in its place. -/
def listEnd : Reading Unit := do
  match ← next with
  | none => fail (.cut .list)
  | some ']' => advance
  | some ',' =>
    advance
    if (← next) = some ']' then failNext .lastComma else failNext .surplus
  | some _ => failNext .surplus

/-- Takes the end of an object. -/
def objectEnd : Reading Unit := do
  match ← next with
  | none => fail (.cut .object)
  | some '\x7d' => advance
  | some ',' => failNext .lastComma
  | some _ => failNext .surplus

/-- Takes the colon behind a key. -/
def colon : Reading Unit := do
  match ← next with
  | none => fail (.cut .object)
  | some ':' => advance
  | some _ => failNext .noColon

/-- Takes in elements one after the other.  Each takes one unit of fuel. -/
def itemsWith (item : σ → Reading σ) : Nat → Bool → σ → Reading σ
  | 0, _, soFar => pure soFar
  | fuel + 1, first, soFar => do
    if ← moreItems first then itemsWith item fuel false (← item soFar) else return soFar

/-- Takes in members one after the other, each from behind its key.  Each takes one
unit of fuel. -/
def membersWith (member : σ → String → Reading σ) : Nat → Bool → σ → Reading σ
  | 0, _, soFar => pure soFar
  | fuel + 1, first, soFar => do
    if ← moreMembers first then
      let key ← string
      membersWith member fuel false (← member soFar key)
    else return soFar

/-- A list from its bracket on, whose elements are taken in one after the other. -/
def list (item : σ → Reading σ) (start : σ) : Reading σ :=
  upTo listEnd do
    advance
    itemsWith item ((← here).rest.length + 1) true start

/-- An object from its bracket on, whose members are taken in one after the other. -/
def object (member : σ → String → Reading σ) (start : σ) : Reading σ :=
  upTo objectEnd do
    advance
    membersWith member ((← here).rest.length + 1) true start

/-! ## What does not matter -/

/-- Passes over elements up to the end of their list. -/
def skipItems (item : Reading Unit) : Nat → Reading Unit
  | 0 => fail (.cut .list)
  | fuel + 1 => do
    item
    match ← next with
    | none => fail (.cut .list)
    | some ',' =>
      advance
      skipItems item fuel
    | some ']' => advance
    | some _ => failNext .noListEnd

/-- Passes over members up to the end of their object. -/
def skipMembers (item : Reading Unit) : Nat → Reading Unit
  | 0 => fail (.cut .object)
  | fuel + 1 => do
    match ← next with
    | none => fail (.cut .object)
    | some '"' => skipString
    | some _ => failNext .noKey
    colon
    item
    match ← next with
    | none => fail (.cut .object)
    | some ',' =>
      advance
      skipMembers item fuel
    | some '\x7d' => advance
    | some _ => failNext .noObjectEnd

/-- Passes over a value, whatever it holds, with at most as many containers inside
each other as there is fuel. -/
def skipValue : Nat → Reading Unit
  | 0 => fail (.cut .value)
  | fuel + 1 => do
    match ← next with
    | none => fail (.cut .value)
    | some 'n' => word ['n', 'u', 'l', 'l']
    | some 't' => word ['t', 'r', 'u', 'e']
    | some 'f' => word ['f', 'a', 'l', 's', 'e']
    | some '"' => skipString
    | some '[' =>
      advance
      match ← next with
      | none => fail (.cut .list)
      | some ']' => advance
      | some _ => skipItems (skipValue fuel) ((← here).rest.length + 1)
    | some '\x7b' =>
      advance
      match ← next with
      | none => fail (.cut .object)
      | some '\x7d' => advance
      | some _ => skipMembers (skipValue fuel) ((← here).rest.length + 1)
    | some c => if c = '-' || c.isDigit then skipNumber else failNext .noValue

def skip : Reading Unit := do skipValue ((← here).rest.length + 1)

/-! ## Whole texts -/

/-- The end of a text. -/
def textEnd : Reading Unit := do
  if (← next).isSome then failNext .surplus

/-- What a whole text holds. -/
def ofText (x : Reading α) (text : String) : Except Complaint α :=
  match (x <* textEnd) { rest := text.toList } with
  | .ok a _ => .ok a
  | .error complaint _ => .error complaint

end Reading
end Json
end RedisKeeper
