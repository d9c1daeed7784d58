import RedisKeeper.Decimal.Scaled
import RedisKeeper.Json.Basic

/-
JSON values as text without white space.  Control characters, quote and
backslash are escaped in strings and every other character stands for itself.  A
decimal keeps a point or an exponent, so that it is not read as a whole number.
-/
namespace RedisKeeper
namespace Json

/-- One character inside a JSON string. -/
def escapedChar (c : Char) : List Char :=
  match c with
  | '"' => ['\\', '"']
  | '\\' => ['\\', '\\']
  | '\n' => ['\\', 'n']
  | '\r' => ['\\', 'r']
  | '\t' => ['\\', 't']
  | '\x08' => ['\\', 'b']
  | '\x0c' => ['\\', 'f']
  | c =>
    if c.toNat < 0x20 then
      ['\\', 'u', '0', '0', Nat.digitChar (c.toNat / 16), Nat.digitChar (c.toNat % 16)]
    else [c]

def stringText (s : String) : List Char := '"' :: s.toList.flatMap escapedChar ++ ['"']

def intText (n : Int) : List Char :=
  match n with
  | .ofNat n => Nat.toDigits 10 n
  | .negSucc n => '-' :: Nat.toDigits 10 (n + 1)

/-- A decimal is written without an exponent if its point stands within sixteen digits
or has less than five zeros behind it. -/
def decimalLayout : Decimal.Layout := ⟨-5, 16⟩

def decimalText (negative : Bool) (digits : Nat) (exponent : Int) : List Char :=
  let size :=
    if digits = 0 then ['0', '.', '0']
    else Decimal.Parts.text ⟨digits, exponent⟩ decimalLayout
  if negative then '-' :: size else size

/-- Texts with a comma between each two. -/
def commaSeparated : List (List Char) → List Char
  | [] => []
  | [item] => item
  | item :: items => item ++ ',' :: commaSeparated items

mutual

def text : Json → List Char
  | .null => ['n', 'u', 'l', 'l']
  | .bool true => ['t', 'r', 'u', 'e']
  | .bool false => ['f', 'a', 'l', 's', 'e']
  | .int n => intText n
  | .decimal negative digits exponent => decimalText negative digits exponent
  | .str s => stringText s
  | .arr items => '[' :: commaSeparated (itemTexts items) ++ [']']
  | .obj members => '\x7b' :: commaSeparated (memberTexts members) ++ ['\x7d']

def itemTexts : List Json → List (List Char)
  | [] => []
  | item :: items => text item :: itemTexts items

def memberTexts : List (String × Json) → List (List Char)
  | [] => []
  | (key, value) :: members => (stringText key ++ ':' :: text value) :: memberTexts members

end

def write (json : Json) : String := String.ofList json.text

end Json
end RedisKeeper
