import RedisKeeper.StringMap

/-
JSON values.

A number without fraction and exponent is an `int`; any other is a `decimal`,
so that 3 and 3.0 stay different values.  The members of an object are in key
order.
-/
namespace RedisKeeper

inductive Json where
  | null
  | bool (b : Bool)
  | int (n : Int)
  /-- The number `digits` times ten to the power `exponent`, or its negative. -/
  | decimal (negative : Bool) (digits : Nat) (exponent : Int)
  | str (s : String)
  | arr (items : List Json)
  | obj (members : List (String × Json))
deriving Inhabited, Repr, BEq

namespace Json

/-- The member of an object under a key.  Other values have no members. -/
def get? (json : Json) (key : String) : Option Json :=
  match json with
  | .obj members => members.lookup key
  | _ => none

/-- The member at the end of a path of keys. -/
def at? (json : Json) : List String → Option Json
  | [] => some json
  | key :: path => (json.get? key).bind fun member => member.at? path

/-- The object with the given members, without those that have no value.  The
first value given for a key counts. -/
def object (members : List (String × Option Json)) : Json :=
  .obj (members.foldr
    (fun member acc =>
      match member.2 with
      | none => acc
      | some value => Keyed.place member.1 value acc) [])

/-- The value with a member set.  A value that is no object is replaced. -/
def set (json : Json) (key : String) (value : Json) : Json :=
  match json with
  | .obj members => .obj (Keyed.place key value members)
  | _ => .obj [(key, value)]

def ofMap (m : StringMap) : Json :=
  .obj (m.entries.map fun entry => (entry.1, .str entry.2))

def strings (items : List String) : Json := .arr (items.map .str)

mutual

/-- The value without a sign in front of any zero. -/
def unsignedZeros : Json → Json
  | .decimal negative digits exponent => .decimal (negative && digits ≠ 0) digits exponent
  | .arr items => .arr (unsignedItems items)
  | .obj members => .obj (unsignedMembers members)
  | json => json

def unsignedItems : List Json → List Json
  | [] => []
  | item :: items => unsignedZeros item :: unsignedItems items

def unsignedMembers : List (String × Json) → List (String × Json)
  | [] => []
  | (key, value) :: members => (key, unsignedZeros value) :: unsignedMembers members

end

/-- Whether two values are the same.  The two zeros are. -/
def isSame (a b : Json) : Bool := a.unsignedZeros == b.unsignedZeros

@[simp] theorem get?_object_nil (key : String) : (object []).get? key = none := rfl

@[simp] theorem get?_object_none (key other : String) (members : List (String × Option Json)) :
    (object ((key, none) :: members)).get? other = (object members).get? other := rfl

@[simp] theorem get?_object_self (key : String) (value : Json)
    (members : List (String × Option Json)) :
    (object ((key, some value) :: members)).get? key = some value :=
  Keyed.lookup_place_self key value _

theorem get?_object_ne {key other : String} (h : other ≠ key) (value : Option Json)
    (members : List (String × Option Json)) :
    (object ((key, value) :: members)).get? other = (object members).get? other := by
  cases value with
  | none => rfl
  | some value => exact Keyed.lookup_place_ne h value _

end Json
end RedisKeeper
