import RedisKeeper.Json.Basic

/-
Reading typed values out of JSON.

Nothing is converted: text is never read as a number, and a number with a
fraction or an exponent is never an integer.  A structure is given as an object,
or as an array of its fields in the order in which they are declared.
-/
namespace RedisKeeper
namespace Json

def asString : Json → Option String
  | .str s => some s
  | _ => none

def asBool : Json → Option Bool
  | .bool b => some b
  | _ => none

def asInt : Json → Option Int
  | .int n => some n
  | _ => none

def asNat : Json → Option Nat
  | .int (.ofNat n) => some n
  | _ => none

def asInt32 : Json → Option Int32
  | .int n => if -0x80000000 ≤ n ∧ n < 0x80000000 then some (Int32.ofInt n) else none
  | _ => none

def asInt64 : Json → Option Int64
  | .int n =>
    if -0x8000000000000000 ≤ n ∧ n < 0x8000000000000000 then some (Int64.ofInt n) else none
  | _ => none

def ofInt32 (n : Int32) : Json := .int n.toInt

def ofInt64 (n : Int64) : Json := .int n.toInt

/-- All elements of a list read in order, or nothing if one of them cannot be
read. -/
def all? {α β : Type} (read : α → Option β) : List α → Option (List β)
  | [] => some []
  | a :: rest => (read a).bind fun b => (all? read rest).map (b :: ·)

def asList {α : Type} (read : Json → Option α) : Json → Option (List α)
  | .arr items => all? read items
  | _ => none

def asMap : Json → Option StringMap
  | .obj members =>
    (all? (fun member => member.2.asString.map (member.1, ·)) members).map StringMap.ofList
  | _ => none

/-- Null, or a value. -/
def orNull {α : Type} (read : Json → Option α) : Json → Option (Option α)
  | .null => some none
  | json => (read json).map some

/-! ## Structures -/

/-- The fields of a structure.  One given as a list has no names, which only
matters to a field that may be missing by name alone. -/
structure Record where
  get? : String → Option Json
  listed : Bool

namespace Record

/-- The element that stands at the place of a key in a list of names. -/
def nth? (names : List String) (items : List Json) (key : String) : Option Json :=
  match names, items with
  | name :: names, item :: items => if name = key then some item else nth? names items key
  | _, _ => none

/-- The fields of an object, or of an array with at most one element for each
name. -/
def of? (names : List String) : Json → Option Record
  | .obj members => some ⟨fun key => members.lookup key, false⟩
  | .arr items =>
    if items.length ≤ names.length then some ⟨nth? names items, true⟩ else none
  | _ => none

/-- The fields of a value that can only be given as an object. -/
def ofObject? : Json → Option Record
  | .obj members => some ⟨fun key => members.lookup key, false⟩
  | _ => none

variable {α : Type}

/-- A field that must be there. -/
def required (r : Record) (key : String) (read : Json → Option α) : Option α :=
  (r.get? key).bind read

/-- A field that may be missing or null. -/
def optional (r : Record) (key : String) (read : Json → Option α) : Option (Option α) :=
  match r.get? key with
  | none => some none
  | some json => orNull read json

/-- A field that may be null, and missing only where fields have names. -/
def nullable (r : Record) (key : String) (read : Json → Option α) : Option (Option α) :=
  match r.get? key with
  | none => if r.listed then none else some none
  | some json => orNull read json

/-- A field that has a value of its own when it is missing. -/
def defaulted (r : Record) (key : String) (default : α) (read : Json → Option α) : Option α :=
  match r.get? key with
  | none => some default
  | some json => read json

/-- A field that has a value of its own when it is missing or null. -/
def orDefault (r : Record) (key : String) (default : α) (read : Json → Option α) : Option α :=
  (r.optional key read).map (·.getD default)

end Record

end Json
end RedisKeeper
