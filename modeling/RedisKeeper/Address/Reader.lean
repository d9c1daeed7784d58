import RedisKeeper.Address.Ip
import RedisKeeper.Text.Blank

/-
Reading addresses.

A version 4 address is four decimal numbers up to 255 of at most three digits
without zeros in front.  A version 6 address is eight hexadecimal groups of one
to four digits; two colons stand once for at least one group, and the last two
groups may be written as a version 4 address.
-/
namespace RedisKeeper

namespace Ipv4

def byte? (s : List Char) : Option UInt8 :=
  if s.isEmpty ∨ 3 < s.length ∨ !s.all Char.isDigit ∨ (s.head? = some '0' ∧ s.length ≠ 1) then
    none
  else
    let n := s.foldl (fun acc c => acc * 10 + (c.toNat - '0'.toNat)) 0
    if n < 256 then some n.toUInt8 else none

def read? (s : List Char) : Option Ipv4 :=
  match Text.cut '.' s with
  | [a, b, c, d] => do return ⟨← byte? a, ← byte? b, ← byte? c, ← byte? d⟩
  | _ => none

/-- The two groups that write the address inside one of version 6. -/
def groups (a : Ipv4) : List UInt16 :=
  [a.first.toUInt16 * 256 + a.second.toUInt16, a.third.toUInt16 * 256 + a.fourth.toUInt16]

end Ipv4

namespace Ipv6

def group? (s : List Char) : Option UInt16 :=
  if s.isEmpty ∨ 4 < s.length then none
  else
    (s.foldl (fun acc c => acc.bind fun n => (Text.hexDigit? c).map (n * 16 + ·)) (some 0)).map
      Nat.toUInt16

/-- The groups written by the parts of a text.  The last part may be a version 4
address. -/
def partGroups? : List (List Char) → Option (List UInt16)
  | [] => some []
  | [last] => ((group? last).map fun g => [g]) <|> ((Ipv4.read? last).map Ipv4.groups)
  | part :: parts => do return (← group? part) :: (← partGroups? parts)

def groups? (s : List Char) : Option (List UInt16) :=
  if s.isEmpty then some [] else partGroups? (Text.cut ':' s)

/-- The groups of a text in which each part is a group of its own. -/
def plainGroups? (s : List Char) : Option (List UInt16) :=
  if s.isEmpty then some []
  else (Text.cut ':' s).mapM group?

/-- The texts before and after the first two colons in a row. -/
def splitGap : List Char → Option (List Char × List Char)
  | [] => none
  | ':' :: ':' :: rest => some ([], rest)
  | c :: rest => (splitGap rest).map fun (before, after) => (c :: before, after)

def ofGroups? (groups : List UInt16) : Option Ipv6 :=
  if h : groups.length = 8 then some ⟨groups, h⟩ else none

def read? (s : List Char) : Option Ipv6 :=
  match splitGap s with
  | none => (groups? s).bind ofGroups?
  | some (before, after) => do
    let front ← plainGroups? before
    let back ← groups? after
    let given := front.length + back.length
    if given ≤ 7 then ofGroups? (front ++ List.replicate (8 - given) 0 ++ back) else none

end Ipv6

namespace Address

/-- The address that a text names, with white space around it ignored. -/
def read? (s : String) : Option Address :=
  let s := Text.trim s.toList
  ((Ipv4.read? s).map .v4) <|> ((Ipv6.read? s).map .ofIpv6)

end Address
end RedisKeeper
