/-
Bytes read as UTF-8.  A byte sequence that is not well formed is read as the
replacement character, one for each longest part that could still have begun a
character.
-/
namespace RedisKeeper
namespace Text

/-- What may follow a first byte: how many bytes, and the range that the first
of them has to be in.  The ranges leave out overlong forms, surrogates and
numbers above U+10FFFF. -/
def followers (first : UInt8) : Option (Nat × UInt8 × UInt8) :=
  if first < 0x80 then some (0, 0, 0)
  else if first < 0xc2 then none
  else if first < 0xe0 then some (1, 0x80, 0xbf)
  else if first = 0xe0 then some (2, 0xa0, 0xbf)
  else if first = 0xed then some (2, 0x80, 0x9f)
  else if first < 0xf0 then some (2, 0x80, 0xbf)
  else if first = 0xf0 then some (3, 0x90, 0xbf)
  else if first < 0xf4 then some (3, 0x80, 0xbf)
  else if first = 0xf4 then some (3, 0x80, 0x8f)
  else none

/-- A character that some of its bytes have been read of: the bits so far, how
many bytes are missing and the range the next one has to be in. -/
structure Partial where
  bits : Nat
  missing : Nat
  low : UInt8
  high : UInt8

def replacement : Char := '\ufffd'

/-- The bits of a first byte that belong to the character's number. -/
def leadBits (first : UInt8) (count : Nat) : Nat :=
  match count with
  | 0 => first.toNat
  | 1 => first.toNat % 0x20
  | 2 => first.toNat % 0x10
  | _ => first.toNat % 0x08

/-- Begins a character with `byte`: what is read at once, and what is left
open. -/
def beginChar (byte : UInt8) : List Char × Option Partial :=
  match followers byte with
  | none => ([replacement], none)
  | some (0, _, _) => ([Char.ofNat byte.toNat], none)
  | some (count, low, high) => ([], some ⟨leadBits byte count, count, low, high⟩)

/-- Reads bytes after the open character `pending`. -/
def decodeFrom (pending : Option Partial) : List UInt8 → List Char
  | [] => if pending.isSome then [replacement] else []
  | byte :: bytes =>
    match pending with
    | none =>
      let (chars, next) := beginChar byte
      chars ++ decodeFrom next bytes
    | some p =>
      if p.low ≤ byte && byte ≤ p.high then
        let bits := p.bits * 0x40 + byte.toNat % 0x40
        if p.missing ≤ 1 then Char.ofNat bits :: decodeFrom none bytes
        else decodeFrom (some ⟨bits, p.missing - 1, 0x80, 0xbf⟩) bytes
      else
        let (chars, next) := beginChar byte
        replacement :: chars ++ decodeFrom next bytes

/-- The text of a byte sequence. -/
def decodeUtf8 (bytes : List UInt8) : String := String.ofList (decodeFrom none bytes)

end Text
end RedisKeeper
