import RedisKeeper.Address.Ip
import RedisKeeper.Text.Basic

/-
Addresses as text.

A version 6 address is written in hexadecimal groups without zeros in front.
The longest run of at least two zero groups, the first of equals, is left out
and marked by two colons.  In front of a number such as a port a version 6
address stands in brackets.
-/
namespace RedisKeeper

namespace Ipv4

def text (a : Ipv4) : List Char :=
  Text.join '.' ([a.first, a.second, a.third, a.fourth].map fun b => Nat.toDigits 10 b.toNat)

end Ipv4

namespace Ipv6

/-- The length of the run of zeros at the start of a list. -/
def zerosAhead (groups : List UInt16) : Nat := (groups.takeWhile (· = 0)).length

/-- Place and length of the longest run of zeros, the first of equals. -/
def longestZeros (groups : List UInt16) : Nat × Nat :=
  (List.range groups.length).foldl
    (fun best start =>
      let length := zerosAhead (groups.drop start)
      if best.2 < length then (start, length) else best)
    (0, 0)

def groupsText (groups : List UInt16) : List Char :=
  Text.join ':' (groups.map fun g => Nat.toDigits 16 g.toNat)

def text (a : Ipv6) : List Char :=
  let (start, length) := longestZeros a.groups
  if length < 2 then groupsText a.groups
  else groupsText (a.groups.take start) ++ [':', ':'] ++ groupsText (a.groups.drop (start + length))

end Ipv6

namespace Address

/-- The address alone, as it stands in the rows of a table. -/
def host : Address → String
  | .v4 a => String.ofList a.text
  | .v6 a _ => String.ofList a.text

/-- The address with a TCP port. -/
def endpoint (a : Address) (tcp : UInt16) : String :=
  match a with
  | .v4 b => String.ofList (b.text ++ ':' :: Nat.toDigits 10 tcp.toNat)
  | .v6 b _ => String.ofList ('[' :: b.text ++ ']' :: ':' :: Nat.toDigits 10 tcp.toNat)

end Address
end RedisKeeper
