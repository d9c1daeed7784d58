import RedisKeeper.Text.Blank

/-
Text quoted for people to read in a message: in double quotes, with tab, line
feed, carriage return, NUL, quote and backslash escaped by name and every other
character that does not show by its number.
-/
namespace RedisKeeper
namespace Text

/-- Characters that do not show on their own: controls, formats, unusual
spaces and separators, private use, and the blocks of combining marks. -/
def hiddenRanges : List (Nat × Nat) :=
  [(0x00, 0x1f), (0x7f, 0xa0), (0xad, 0xad), (0x300, 0x36f), (0x483, 0x489),
   (0x591, 0x5bd), (0x600, 0x605), (0x610, 0x61a), (0x61c, 0x61c),
   (0x64b, 0x65f), (0x6dd, 0x6dd), (0x70f, 0x70f), (0x8e2, 0x8e2),
   (0x1680, 0x1680), (0x180b, 0x180f), (0x1ab0, 0x1ace), (0x1dc0, 0x1dff),
   (0x2000, 0x200f), (0x2028, 0x202f), (0x205f, 0x206f), (0x20d0, 0x20f0),
   (0x3000, 0x3000), (0x302a, 0x302f), (0x3099, 0x309a), (0xd800, 0xf8ff),
   (0xfe00, 0xfe0f), (0xfe20, 0xfe2f), (0xfeff, 0xfeff), (0xfff0, 0xfffb),
   (0xfffe, 0xffff), (0xe0000, 0x10ffff)]

def isHidden (c : Char) : Bool := inRanges hiddenRanges c

/-- One character inside quotes. -/
def quotedChar (c : Char) : List Char :=
  match c with
  | '\t' => ['\\', 't']
  | '\r' => ['\\', 'r']
  | '\n' => ['\\', 'n']
  | '\x00' => ['\\', '0']
  | '"' => ['\\', '"']
  | '\\' => ['\\', '\\']
  | c =>
    if isHidden c then
      ['\\', 'u', '\x7b'] ++ Nat.toDigits 16 c.toNat ++ ['\x7d']
    else [c]

def quoted (s : String) : String :=
  String.ofList ('"' :: s.toList.flatMap quotedChar ++ ['"'])

end Text
end RedisKeeper
