/-
Internet addresses of both versions, and the addresses of nodes among them.

A version 6 address of the form `::ffff:a.b.c.d` stands for the version 4
address `a.b.c.d`, so a node address is never one of these: the two ways of
saying where a node is cannot both occur.
-/
namespace RedisKeeper

structure Ipv4 where
  first : UInt8
  second : UInt8
  third : UInt8
  fourth : UInt8
deriving DecidableEq, Inhabited

structure Ipv6 where
  groups : List UInt16
  length_eq : groups.length = 8
deriving DecidableEq

namespace Ipv6

/-- The version 4 address that the address stands for, if it does for one. -/
def mapped? (a : Ipv6) : Option Ipv4 :=
  match a.groups with
  | [0, 0, 0, 0, 0, 0xffff, high, low] =>
    some ⟨(high / 256).toUInt8, high.toUInt8, (low / 256).toUInt8, low.toUInt8⟩
  | _ => none

end Ipv6

/-- Where a node can be reached. -/
inductive Address where
  | v4 (a : Ipv4)
  | v6 (a : Ipv6) (unmapped : a.mapped? = none)
deriving DecidableEq

namespace Address

def ofIpv6 (a : Ipv6) : Address :=
  match h : a.mapped? with
  | some b => .v4 b
  | none => .v6 a h

def isV4 : Address → Bool
  | .v4 _ => true
  | .v6 _ _ => false

end Address
end RedisKeeper
