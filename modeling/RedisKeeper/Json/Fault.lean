import RedisKeeper.Json.Writer
import RedisKeeper.Text.Quoted

/-
What can be wrong with a JSON text, and where.

A text is at fault where it is no JSON, and where it does not hold what is wanted of
it.  The place is told by the line and by the bytes of the line up to there.
-/
namespace RedisKeeper
namespace Json

/-- What a text can stop in. -/
inductive Part where
  | value
  | list
  | object
  | string
deriving DecidableEq, Inhabited

def Part.text : Part → String
  | value => "a value"
  | list => "a list"
  | object => "an object"
  | string => "a string"

inductive Fault where
  /-- The text stops in the middle of something. -/
  | cut (part : Part)
  | noColon
  /-- An element is followed by neither a comma nor the end of the list. -/
  | noListEnd
  /-- A member is followed by neither a comma nor the end of the object. -/
  | noObjectEnd
  | noWord
  | noValue
  | noKey
  | escape
  | number
  | tooLarge
  | control
  /-- Half of a surrogate pair stands alone. -/
  | surrogate
  /-- The first half of a surrogate pair is not followed by an escape. -/
  | tornPair
  | lastComma
  /-- Something stands behind the end. -/
  | surplus
  | tooDeep
  /-- A value of another kind than is wanted. -/
  | kind (found : Json) (expected : String)
  /-- A value of the right kind that is not wanted. -/
  | value (found : Json) (expected : String)
  | repeated (field : String)
  | missing (field : String)
  /-- A list with fewer elements than a record has fields. -/
  | tooShort (count : Nat) (expected : String)
  | unknown (name : String) (names : List String)
  /-- What is wrong is told by whoever wanted the value. -/
  | told (text : String)
deriving Inhabited

/-- A value as it is spoken of. -/
def spoken : Json → String
  | .null => "null"
  | .bool b => s!"boolean \x60{b}\x60"
  | .int n => s!"integer \x60{n}\x60"
  | .decimal negative digits exponent =>
    let number := String.ofList (decimalText negative digits exponent)
    s!"floating point \x60{number}\x60"
  | .str s => s!"string {Text.quoted s}"
  | .arr _ => "sequence"
  | .obj _ => "map"

namespace Fault

/-- Names of which one is wanted. -/
def choices (names : List String) : String :=
  match names.map fun name => "\x60" ++ name ++ "\x60" with
  | [a] => a
  | [a, b] => a ++ " or " ++ b
  | names => "one of " ++ ", ".intercalate names

def text : Fault → String
  | cut part => s!"EOF while parsing {part.text}"
  | noColon => "expected \x60:\x60"
  | noListEnd => "expected \x60,\x60 or \x60]\x60"
  | noObjectEnd => "expected \x60,\x60 or \x60\x7d\x60"
  | noWord => "expected ident"
  | noValue => "expected value"
  | noKey => "key must be a string"
  | escape => "invalid escape"
  | number => "invalid number"
  | tooLarge => "number out of range"
  | control => "control character (\\u0000-\\u001F) found while parsing a string"
  | surrogate => "lone leading surrogate in hex escape"
  | tornPair => "unexpected end of hex escape"
  | lastComma => "trailing comma"
  | surplus => "trailing characters"
  | tooDeep => "recursion limit exceeded"
  | kind found expected => s!"invalid type: {spoken found}, expected {expected}"
  | value found expected => s!"invalid value: {spoken found}, expected {expected}"
  | repeated field => s!"duplicate field \x60{field}\x60"
  | missing field => s!"missing field \x60{field}\x60"
  | tooShort count expected => s!"invalid length {count}, expected {expected}"
  | unknown name names => s!"unknown variant \x60{name}\x60, expected {choices names}"
  | told text => text

/-- Whether the text is in order up to where it stops. -/
def isCut : Fault → Bool
  | cut _ => true
  | _ => false

end Fault

structure Place where
  line : Nat := 1
  /-- The bytes of the line in front of the place. -/
  column : Nat := 0
deriving DecidableEq, Inhabited

namespace Place

/-- The place behind a character of so many bytes. -/
def past (p : Place) (c : Char) (bytes : Nat) : Place :=
  if c = '\n' then ⟨p.line + 1, 0⟩ else ⟨p.line, p.column + bytes⟩

/-- The place some bytes further on in a text, which may be in the middle of a
character, or at the end of the text. -/
def further (p : Place) : Nat → List Char → Place
  | 0, _ => p
  | _, [] => p
  | n, c :: rest =>
    if n ≤ c.utf8Size then p.past c n else (p.past c c.utf8Size).further (n - c.utf8Size) rest

end Place

/-- A fault with its place, as soon as that is known. -/
structure Complaint where
  fault : Fault
  place : Option Place := none
deriving Inhabited

def Complaint.text (c : Complaint) : String :=
  match c.place with
  | some p => s!"{c.fault.text} at line {p.line} column {p.column}"
  | none => c.fault.text

end Json
end RedisKeeper
