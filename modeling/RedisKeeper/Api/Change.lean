import RedisKeeper.Api.Request

/-
What a watch tells: objects that came, changed or went, and news about the
watch itself.

A notice is an object with a type and an object in it, in any order, or an array
of the two.  What stands in front of the type is read before it is known what it
is to be.
-/
namespace RedisKeeper
namespace Api

open Json

inductive NoticeType where
  | added
  | modified
  | deleted
  /-- Nothing happened up to a version. -/
  | bookmark
  | error
deriving DecidableEq, Inhabited

namespace NoticeType

def all : List NoticeType := [added, modified, deleted, bookmark, error]

def name : NoticeType → String
  | added => "ADDED"
  | modified => "MODIFIED"
  | deleted => "DELETED"
  | bookmark => "BOOKMARK"
  | error => "ERROR"

def format : Format NoticeType :=
  ⟨.choice (all.map name), fun json =>
    json.asString.bind fun s => all.find? fun type => type.name = s⟩

end NoticeType

/-- What is learned from a notice on objects that are given by a type. -/
inductive Notice (α : Type) where
  | current (object : α)
  | gone (object : α)
  | bookmark (version : String)
  | refused (r : Refusal)

namespace Notice

variable {α : Type}

/-- The version up to which nothing happened. -/
def bookmarkFormat : Format String :=
  .flattened "Bookmark" <| (fun version _ _ => version)
    <$> .required "metadata" metadata
    <*> .last "apiVersion" .text
    <*> .last "kind" .text
where
  metadata : Format String :=
    .declared "BookmarkMeta" <| (fun version _ => version)
      <$> .required "resourceVersion" .text
      <*> .defaulted "annotations" .empty .textMap

/-- The form of a notice's object. -/
def format (object : Format α) : NoticeType → Format (Notice α)
  | .added | .modified => object.map current
  | .deleted => object.map gone
  | .bookmark => bookmarkFormat.map bookmark
  | .error => Refusal.format.map refused

/-- What has been read of a notice. -/
structure Draft (α : Type) where
  type : Option NoticeType := none
  /-- The place of an object whose type is not known yet. -/
  unread : Option Cursor := none
  notice : Option (Notice α) := none

/-- The containers that the parts of a notice may have inside each other. -/
def room : Nat := depthLimit - 1

/-- Reads a member of a notice. -/
def Draft.add (object : Format α) (d : Draft α) (key : String) : Reading (Draft α) := do
  match key with
  | "type" =>
    if d.type.isSome then Reading.unfit (.repeated key)
    Reading.colon
    let type ← NoticeType.format.reading false room
    match d.unread with
    | none => return { d with type := some type }
    | some place =>
      let notice ← Reading.elsewhere place ((format object type).reading true room)
      return { d with type := some type, notice := some notice }
  | "object" =>
    if d.unread.isSome || d.notice.isSome then Reading.unfit (.repeated key)
    Reading.colon
    match d.type with
    | some type => return { d with notice := some (← (format object type).reading false room) }
    | none =>
      let place ← Reading.here
      let _ ← Format.any.reading false room
      return { d with unread := some place }
  | _ =>
    Reading.colon
    Reading.skip
    return d

/-- Reads a notice that is given as an array. -/
def elements (object : Format α) : Reading (Notice α) :=
  Reading.upTo Reading.listEnd do
    Reading.advance
    if !(← Reading.moreItems true) then Reading.unfit (.tooShort 0 "Notice")
    let type ← NoticeType.format.reading false room
    if !(← Reading.moreItems false) then Reading.unfit (.tooShort 1 "Notice")
    (format object type).reading false room

def reading (object : Format α) : Reading (Notice α) :=
  Reading.starting fun c => do
    if c = '[' then elements object
    else if c = '\x7b' then
      match (← Reading.object (Draft.add object) {}).notice with
      | some notice => return notice
      | none => Reading.unfit (.missing "object")
    else Reading.misfit "Notice"

/-- What a line of a watch's answer says. -/
def ofText (object : Format α) (line : String) : Except Complaint (Notice α) :=
  Reading.ofText (reading object) line

end Notice

/-- A change of an object. -/
structure Change where
  type : NoticeType
  /-- The object as it is now, or as it last was. -/
  object : Json
deriving Inhabited

/-- The notice of a change at a version. -/
def Change.toJson (c : Change) (version : String) : Json :=
  let metadata := ((c.object.get? "metadata").getD (.obj [])).set "resourceVersion" (.str version)
  Json.object [
    ("object", some (c.object.set "metadata" metadata)), ("type", some (.str c.type.name))]

end Api
end RedisKeeper
