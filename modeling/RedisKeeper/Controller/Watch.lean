import RedisKeeper.Api.Builtin
import RedisKeeper.Api.Change
import RedisKeeper.Controller.Subject

/-
A watch on all objects of a kind.

The objects are listed, page by page, and handed on one by one.  From then on the
changes are followed.  A watch that is refused or cannot make sense of what it is
told goes on from where it was, and starts afresh when it has lost its place.
-/
namespace RedisKeeper
namespace Controller

open Json

/-- An object as a watch sees it: in full, or only its metadata. -/
inductive Sighting where
  | subject (s : Subject)
  | relative (m : Metadata)

def Sighting.metadata : Sighting → Metadata
  | subject s => s.metadata
  | relative m => m

/-- Where a watch gets its changes from. -/
inductive Feed where
  /-- Lines of an answer that has come as a whole. -/
  | lines (rest : List String)
  /-- What happens from now on. -/
  | live (channel : Api.Channel)
deriving DecidableEq

/-- How far a watch has come. -/
inductive Stage where
  | unlisted
  /-- The objects are to be listed, from a place in the list on. -/
  | listing (place : Option String)
  /-- Objects that were listed, the place where the list goes on, and the version
  of the list. -/
  | handing (objects : List Sighting) (place version : Option String)
  /-- All objects are known as they were at a version. -/
  | listed (version : String)
  | following (version : String) (feed : Feed)

/-- What a watch has to say. -/
inductive Note where
  /-- The objects are listed from the start. -/
  | begun
  | listed (s : Sighting)
  /-- All objects have been handed on. -/
  | complete
  | changed (s : Sighting)
  | removed (s : Sighting)
  | failed

/-- Whether the note is about an object that has no name. -/
def Note.isNameless : Note → Bool
  | listed s | changed s | removed s => s.metadata.name.isNone
  | begun | complete | failed => false

structure Watch where
  resource : Api.ResourceType
  /-- Whether the objects belong to the controller's resources, and are not these
  resources themselves. -/
  owned : Bool
  stage : Stage := .unlisted

namespace Watch

def format (w : Watch) : Format Sighting :=
  if w.owned then Api.metadataFormat.map .relative
  else (Subject.format w.resource.kind).map .subject

/-- What a text says, where it says anything. -/
def told (text : Option String) : Option String := text.filter fun s => !s.isEmpty

/-- The request that a watch waits to have answered. -/
def request? (w : Watch) (scope : Option String) : Option Api.Request :=
  match w.stage with
  | .listing place =>
    let next := (place.map fun token => ("continue", token)).toList
    some { verb := .list, resource := w.resource, ns := scope, query := next }
  | .listed version =>
    some {
      verb := .watch, resource := w.resource, ns := scope
      query := [("watch", "true"), ("resourceVersion", version)] }
  | _ => none

/-- The lines of a text.  What follows the last line break is a line if there is
anything. -/
def linesOf (text : String) : List String :=
  let lines := Text.cut '\n' text.toList
  let lines := if lines.getLast? = some [] then lines.dropLast else lines
  lines.map fun line =>
    String.ofList (if line.getLast? = some '\r' then line.dropLast else line)

/-- Takes in a list of objects. -/
def takeList (w : Watch) (reply : Api.Reply) : Watch × Option Note :=
  match Api.decoded (Api.Listing.format w.format) reply.result with
  | .error _ => ({ w with stage := .unlisted }, some .failed)
  | .ok listing =>
    match told listing.version, told listing.next with
    | none, none => ({ w with stage := .unlisted }, some .failed)
    | version, place => ({ w with stage := .handing listing.items place version }, none)

/-- Takes in the beginning of the changes behind a version.  The status of the
answer does not matter. -/
def takeFeed (w : Watch) (version : String) : Api.Reply → Watch × Option Note
  | .lost _ => (w, some .failed)
  | .answered _ (.changes channel) =>
    ({ w with stage := .following version (.live channel) }, none)
  | .answered _ body =>
    ({ w with stage := .following version (.lines (linesOf body.toText)) }, none)

/-- Takes in the answer to the watch's request. -/
def answered (w : Watch) (result : Except Api.Error Api.Reply) : Watch × Option Note :=
  match w.stage, result with
  | .listing _, .ok reply => w.takeList reply
  | .listing _, .error _ => ({ w with stage := .unlisted }, some .failed)
  | .listed version, .ok reply => w.takeFeed version reply
  | _, .error _ => (w, some .failed)
  | _, .ok _ => (w, none)

/-- Takes in what was told about an object, which must have a version. -/
def takeVersion (w : Watch) (s : Sighting) (feed : Feed) (note : Note) : Watch × Option Note :=
  match told s.metadata.resourceVersion with
  | some version => ({ w with stage := .following version feed }, some note)
  | none => ({ w with stage := .unlisted }, some .failed)

/-- Takes in a line of what the API tells.  One that was cut off is passed over. -/
def takeNotice (w : Watch) (version : String) (feed : Feed) (line : String) :
    Watch × Option Note :=
  let on := { w with stage := .following version feed }
  match Api.Notice.ofText w.format line with
  | .ok (.current s) => w.takeVersion s feed (.changed s)
  | .ok (.gone s) => w.takeVersion s feed (.removed s)
  | .ok (.bookmark version) => ({ w with stage := .following version feed }, none)
  | .ok (.refused r) =>
    if r.code = 410 then ({ w with stage := .unlisted }, some .failed) else (on, some .failed)
  | .error complaint => (on, if complaint.fault.isCut then none else some .failed)

/-- Goes on as far as possible without anything from outside. -/
def advance? (w : Watch) : Option (Watch × Option Note) :=
  match w.stage with
  | .unlisted => some ({ w with stage := .listing none }, some .begun)
  | .handing (s :: rest) place version =>
    some ({ w with stage := .handing rest place version }, some (.listed s))
  | .handing [] none (some version) => some ({ w with stage := .listed version }, some .complete)
  | .handing [] place _ => some ({ w with stage := .listing place }, none)
  | .following version (.lines []) => some ({ w with stage := .listed version }, none)
  | .following version (.lines (line :: rest)) =>
    some (w.takeNotice version (.lines rest) line)
  | .listing _ | .listed _ | .following _ (.live _) => none

end Watch
end Controller
end RedisKeeper
