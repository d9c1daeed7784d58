import RedisKeeper.Json.Shape

/-
How values of a type are given in JSON.

A format knows two things that are written down once: the shape of the text and
the value that a JSON value of the shape stands for.  The fields of a record are
put together one by one, in the order in which the record declares them.
-/
namespace RedisKeeper
namespace Json

structure Format (α : Type) where
  shape : Shape
  /-- The value that a JSON value stands for, if it is one of the format. -/
  decode : Json → Option α

namespace Format

variable {α : Type}

def text : Format String := ⟨.anyText, asString⟩

/-- A text of some form.  What is wrong with any other is told. -/
def textOf (title : String) (read : String → Except String α) : Format α where
  shape := .text title fun s =>
    match read s with
    | .ok _ => none
    | .error reason => some (.told reason)
  decode json := json.asString.bind fun s => (read s).toOption

def any : Format Json := ⟨.any, some⟩

def truth : Format Bool := ⟨.truth, asBool⟩

def int32 : Format Int32 := ⟨.int32, asInt32⟩

def int64 : Format Int64 := ⟨.int64, asInt64⟩

/-- A natural number of so many bits. -/
def natOfBits (bits : Nat) : Format Nat :=
  ⟨.whole s!"u{bits}" 0 (Nat.pow 2 bits - 1),
    fun json => json.asNat.filter (· < Nat.pow 2 bits)⟩

def list (item : Format α) : Format (List α) := ⟨.list item.shape, asList item.decode⟩

def textMap : Format StringMap := ⟨.map .anyText, asMap⟩

/-- A value that has to be of a shape and does not matter otherwise. -/
def unread (shape : Shape) : Format Unit :=
  ⟨shape, fun json => if shape.admits json then some () else none⟩

def map {β : Type} (g : α → β) (f : Format α) : Format β :=
  ⟨f.shape, fun json => (f.decode json).map g⟩

/-- Reads a value inside a text, with at most so many containers inside each other.
The text may have been read as a plain value ahead of its format. -/
def reading (f : Format α) (ahead : Bool) (room : Nat) : Reading α := do
  let json ← Reading.ofShape ahead room f.shape
  match f.decode json with
  | some a => return a
  | none => Reading.unfit (.value json "another value")

/-- The value that a text stands for. -/
def read (f : Format α) (text : String) : Except Complaint α :=
  Reading.ofText (f.reading false depthLimit) text

/-- The value that a JSON value stands for. -/
def read? (f : Format α) (json : Json) : Option α := (f.read json.write).toOption

end Format

/-- Some fields of a record, and what they amount to. -/
structure Fields (α : Type) where
  /-- The keys with the shapes that are found there. -/
  shapes : List (String × Presence × Shape)
  decode : Record → Option α

namespace Fields

variable {α : Type}

instance : Applicative Fields where
  pure a := ⟨[], fun _ => some a⟩
  seq fs gs :=
    ⟨fs.shapes ++ (gs ()).shapes,
      fun r => (fs.decode r).bind fun f => ((gs ()).decode r).map f⟩

/-- A field that must be there. -/
def required (key : String) (f : Format α) : Fields α :=
  ⟨[(key, .required, f.shape)], fun r => r.required key f.decode⟩

/-- A field that must be there and may be null. -/
def present (key : String) (f : Format α) : Fields (Option α) :=
  ⟨[(key, .present, f.shape)], fun r => r.required key (orNull f.decode)⟩

/-- A field that may be missing or null. -/
def optional (key : String) (f : Format α) : Fields (Option α) :=
  ⟨[(key, .optional, f.shape)], fun r => r.optional key f.decode⟩

/-- A field that may be null, and missing only where fields have names. -/
def nullable (key : String) (f : Format α) : Fields (Option α) :=
  ⟨[(key, .nullableByName, f.shape)], fun r => r.nullable key f.decode⟩

/-- A field that has a value of its own when it is missing. -/
def defaulted (key : String) (default : α) (f : Format α) : Fields α :=
  ⟨[(key, .defaulted, f.shape)], fun r => r.defaulted key default f.decode⟩

/-- A field that has a value of its own when it is missing or null. -/
def orDefault (key : String) (default : α) (f : Format α) : Fields α :=
  ⟨[(key, .optional, f.shape)], fun r => r.orDefault key default f.decode⟩

/-- A field that must be there, and is not looked at before the record has
ended. -/
def last (key : String) (f : Format α) : Fields α :=
  ⟨[(key, .last, .any)], fun r => r.required key f.decode⟩

/-- A field that may be missing or null and does not matter otherwise. -/
def unread (key : String) (shape : Shape) : Fields Unit :=
  ⟨[(key, .optional, shape)], fun r => (r.optional key (Format.unread shape).decode).map fun _ => ()⟩

end Fields

namespace Format

variable {α : Type}

/-- An object in which unknown and repeated fields do not matter. -/
def lenient (title : String) (fields : Fields α) : Format α :=
  ⟨.record title .lenient fields.shapes, fun json => (Record.ofObject? json).bind fields.decode⟩

/-- An object without repeated fields, or an array of the fields in order. -/
def declared (title : String) (fields : Fields α) : Format α :=
  ⟨.record title .declared fields.shapes,
    fun json => (Record.of? (fields.shapes.map (·.1)) json).bind fields.decode⟩

/-- An object without repeated fields, in which unknown fields are proper
values. -/
def flattened (title : String) (fields : Fields α) : Format α :=
  ⟨.record title .flattened fields.shapes,
    fun json => (Record.ofObject? json).bind fields.decode⟩

end Format
end Json
end RedisKeeper
