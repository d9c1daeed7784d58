import RedisKeeper.Json.Decode
import RedisKeeper.Json.Reading

/-
Shapes: what the parts of a JSON text have to be, and which of them matter.

A text is read in order, so that the first fault in it is the one that is told, and
no more is kept than the fields that the shape knows.  A field is missing from the end
of its record on.
-/
namespace RedisKeeper
namespace Json

/-- How the fields of a record are given. -/
inductive Style where
  /-- As an object.  Unknown fields do not matter, and of two under one key the
  last one counts. -/
  | lenient
  /-- As an object without repeated fields, or as an array of the fields in
  order.  Unknown fields do not matter. -/
  | declared
  /-- As an object without repeated fields, in which unknown fields are values
  like any other. -/
  | flattened
deriving DecidableEq, Inhabited

/-- When a field has to be there. -/
inductive Need where
  | always
  /-- When the record is given as an array. -/
  | inArray
  | never
deriving DecidableEq, Inhabited

/-- What stands in the place of a field. -/
structure Presence where
  /-- Whether it may be null. -/
  nullable : Bool
  need : Need
  /-- Whether any value will do until the record has ended. -/
  late : Bool := false
deriving DecidableEq, Inhabited

namespace Presence

def required : Presence := { nullable := false, need := .always }

/-- A field that must be there and may be null. -/
def present : Presence := { nullable := true, need := .always }

/-- A field that may be null, and missing only in an object. -/
def nullableByName : Presence := { nullable := true, need := .inArray }

def defaulted : Presence := { nullable := false, need := .never }

def optional : Presence := { nullable := true, need := .never }

/-- A field that must be there and is looked at in the end. -/
def last : Presence := { nullable := true, need := .always, late := true }

end Presence

inductive Shape where
  /-- A text, and what is wrong with one that will not do.  Whatever is no text is
  faulted by a name. -/
  | text (title : String) (fault? : String → Option Fault)
  /-- No text but one.  Any other is a fault of what the text stands in. -/
  | only (expected : String)
  | truth
  /-- A whole number in a range that has a name. -/
  | whole (title : String) (least greatest : Int)
  /-- A 32-bit number or a text. -/
  | int32OrText
  /-- One of some names, alone or as the only key of an object whose value is
  null. -/
  | choice (names : List String)
  | any
  | list (item : Shape)
  | map (value : Shape)
  /-- An object with fields. -/
  | record (title : String) (style : Style) (fields : List (String × Presence × Shape))

namespace Shape

def anyText : Shape := text "a string" fun _ => none

def int32 : Shape := whole "i32" (-0x80000000) 0x7fffffff

def int64 : Shape := whole "i64" (-0x8000000000000000) 0x7fffffffffffffff

/-- An object whose fields may be missing and null. -/
def object (title : String) (fields : List (String × Shape)) : Shape :=
  record title .lenient (fields.map fun field => (field.1, .optional, field.2))

end Shape

namespace Reading

variable {α : Type}

/-! ## Values of one kind -/

/-- A value that is not of the wanted kind.  One that holds no others is read first. -/
def misfit (expected : String) : Reading α := do
  match ← next with
  | some 'n' =>
    word ['n', 'u', 'l', 'l']
    unfit (.kind .null expected)
  | some 't' =>
    word ['t', 'r', 'u', 'e']
    unfit (.kind (.bool true) expected)
  | some 'f' =>
    word ['f', 'a', 'l', 's', 'e']
    unfit (.kind (.bool false) expected)
  | some '"' => unfit (.kind (.str (← string)) expected)
  | some '[' => unfit (.kind (.arr []) expected)
  | some '\x7b' => unfit (.kind (.obj []) expected)
  | some c =>
    if c = '-' || c.isDigit then unfit (.kind (← number) expected) else failNext .noValue
  | none => fail (.cut .value)

/-- Reads what begins with the next character, which has to be there. -/
def starting (x : Char → Reading α) : Reading α := located do
  match ← next with
  | some c => x c
  | none => fail (.cut .value)

/-- A string, and what it amounts to. -/
def stringAs (title : String) (read : String → Reading α) : Reading α := starting fun c => do
  if c = '"' then read (← string) else misfit title

/-- A text without a fault. -/
def sound (fault? : String → Option Fault) (s : String) : Reading Json :=
  match fault? s with
  | some fault => unfit fault
  | none => return .str s

def truth : Reading Json := starting fun c => do
  match c with
  | 't' =>
    word ['t', 'r', 'u', 'e']
    return .bool true
  | 'f' =>
    word ['f', 'a', 'l', 's', 'e']
    return .bool false
  | _ => misfit "a boolean"

/-- A whole number in a range.  What is told of one outside is given. -/
def inRange (title outside : String) (least greatest : Int) : Reading Json := do
  match ← number with
  | .int n =>
    if least ≤ n ∧ n ≤ greatest then return .int n else unfit (.value (.int n) outside)
  | found => unfit (.kind found title)

def whole (title : String) (least greatest : Int) : Reading Json := starting fun c => do
  if c = '-' || c.isDigit then inRange title title least greatest else misfit title

/-- Null, or a value. -/
def orNull (x : Reading Json) : Reading Json := do
  if (← next) = some 'n' then
    word ['n', 'u', 'l', 'l']
    return .null
  else x

/-- One of some names. -/
def oneOf (names : List String) : Reading Json := stringAs "variant identifier" fun s => do
  if s ∈ names then return .str s else unfit (.unknown s names)

/-! ## Containers -/

/-- A list whose elements are read by `item`, which is missing if there are too many
containers inside each other already. -/
def listOf (item : Option (Reading Json)) : Reading Json := do
  match item with
  | none => failNext .tooDeep
  | some item =>
    return .arr (← list (fun soFar => return (← item) :: soFar) []).reverse

/-- An object whose values are read by `item`.  Of two members under one key the last
one counts. -/
def mapOf (item : Option (Reading Json)) : Reading Json := do
  match item with
  | none => failNext .tooDeep
  | some item =>
    return .obj (← object (fun soFar key => do
      colon
      return Keyed.place key (← item) soFar) [])

/-- A container where there must be none. -/
def noContainer (room : Bool) (ending : Reading Unit) (found : Json) (expected : String) :
    Reading Json :=
  if room then
    upTo ending do
      advance
      unfit (.kind found expected)
  else failNext .tooDeep

/-- The choice that an object makes.  Where the text was read ahead of its shape,
an empty object is as good as null. -/
def chosen (ahead : Bool) (names : List String) : Reading Json := do
  advance
  let name ← oneOf names
  colon
  let c ← next
  if c = some 'n' then word ['n', 'u', 'l', 'l']
  else if ahead && c = some '\x7b' then
    advance
    if (← next) = some '\x7d' then advance else unfit (.kind (.obj []) "unit")
  else located (misfit "unit")
  match ← next with
  | some '\x7d' => advance
  | some _ => fail .noValue
  | none => fail (.cut .object)
  return name

/-! ## Records -/

/-- The fields of a record. -/
abbrev FieldShapes := List (String × Presence × Shape)

/-- The fields of an object, as far as they have been read, the last one first. -/
abbrev FieldValues := List (String × Json)

/-- Reads a member of a record. -/
def field (inner : Shape → Reading Json) (style : Style) (fields : FieldShapes)
    (soFar : FieldValues) (key : String) : Reading FieldValues := do
  match fields.lookup key with
  | some (presence, shape) =>
    if presence.late then
      colon
      return (key, ← inner .any) :: soFar
    else if style ≠ .lenient && (soFar.lookup key).isSome then unfit (.repeated key)
    else
      colon
      let x := inner shape
      return (key, ← if presence.nullable then orNull x else x) :: soFar
  | none =>
    colon
    if style = .flattened then discard (inner .any) else skip
    return soFar

/-- Refuses a record that lacks fields, or repeats those that are looked at in the
end. -/
def complete (fields : FieldShapes) (values : FieldValues) : Reading Unit := do
  let keys := values.map (·.1)
  match fields.find? fun (key, presence, _) => presence.late && 1 < keys.count key with
  | some (key, _) => unfit (.repeated key)
  | none =>
    match fields.find? fun (key, presence, _) => presence.need = .always && key ∉ keys with
    | some (key, _) => unfit (.missing key)
    | none => return ()

/-- Reads a record that is given as an object. -/
def fieldsOf (inner : Shape → Reading Json) (style : Style) (fields : FieldShapes) :
    Reading Json :=
  upTo objectEnd do
    advance
    let values ← membersWith (field inner style fields) ((← here).rest.length + 1) true []
    complete fields values
    return .obj (values.reverse.foldl (fun acc member => Keyed.place member.1 member.2 acc) [])

/-- Reads the fields of a record that is given as an array. -/
def elements (inner : Shape → Reading Json) (title : String) :
    FieldShapes → Bool → List Json → Reading Json
  | [], _, soFar => return .arr soFar.reverse
  | (_, presence, shape) :: fields, first, soFar => do
    if ← moreItems first then
      let x := inner shape
      let value ← if presence.nullable then orNull x else x
      elements inner title fields false (value :: soFar)
    else if presence.need = .never then elements inner title fields first soFar
    else unfit (.tooShort soFar.length title)

/-! ## Shapes -/

/-- Reads by a shape.  What stands in containers is read by `inner`, which is missing if
there are too many inside each other already. -/
def byShape (ahead : Bool) (inner : Option (Shape → Reading Json)) : Shape → Reading Json
  | .text title fault? => stringAs title (sound fault?)
  | .only expected => do
    let json ← stringAs "a string" fun s => return .str s
    if json == .str expected then return json else unfit (.value json expected)
  | .truth => truth
  | .whole title least greatest => whole title least greatest
  | .int32OrText => starting fun c => do
    let title := "enum IntOrString"
    match c with
    | '"' => return .str (← string)
    | '[' => noContainer inner.isSome listEnd (.arr []) title
    | '\x7b' => noContainer inner.isSome objectEnd (.obj []) title
    | c =>
      if c = '-' || c.isDigit then
        inRange title "a 32-bit integer" (-0x80000000) 0x7fffffff
      else misfit title
  | .choice names => do
    match ← next with
    | some '"' => oneOf names
    | some '\x7b' => if inner.isSome then chosen ahead names else failNext .tooDeep
    | some _ => failNext .noValue
    | none => fail (.cut .value)
  | .any => starting fun c => do
    match c with
    | 'n' =>
      word ['n', 'u', 'l', 'l']
      return .null
    | 't' | 'f' => truth
    | '"' => return .str (← string)
    | '[' => listOf (inner.map (· .any))
    | '\x7b' => mapOf (inner.map (· .any))
    | c => if c = '-' || c.isDigit then number else failNext .noValue
  | .list item => starting fun c => do
    if c = '[' then listOf (inner.map (· item)) else misfit "a sequence"
  | .map value => starting fun c => do
    if c = '\x7b' then mapOf (inner.map (· value)) else misfit "a map"
  | .record title style fields => starting fun c => do
    if c = '\x7b' then
      match inner with
      | some inner => fieldsOf inner style fields
      | none => failNext .tooDeep
    else if c = '[' && style ≠ .flattened then
      match style, inner with
      | .declared, some inner =>
        upTo listEnd do
          advance
          elements inner title fields true []
      | _, inner => noContainer inner.isSome listEnd (.arr []) title
    else misfit title

/-- Reads by a shape, with at most so many containers inside each other.  A text may
have been read as a plain value ahead of its shape. -/
def ofShape (ahead : Bool) : Nat → Shape → Reading Json
  | 0 => byShape ahead none
  | room + 1 => byShape ahead (some (ofShape ahead room))

end Reading

/-- The containers that a text may have inside each other. -/
def depthLimit : Nat := 127

/-- Whether a value has a shape. -/
def Shape.admits (shape : Shape) (json : Json) : Bool :=
  (Reading.ofText (Reading.ofShape false depthLimit shape) json.write).isOk

/-- The value of a text. -/
def read? (s : String) : Option Json :=
  (Reading.ofText (Reading.ofShape false depthLimit .any) s).toOption

end Json
end RedisKeeper
