import RedisKeeper.Api.Change
import RedisKeeper.Json.Patch
import RedisKeeper.Sandbox.Arrival
import RedisKeeper.Sandbox.Script

/-
A Kubernetes API that holds objects, and can be told to fail.
-/
namespace RedisKeeper
namespace Sandbox

/-- Where an object is kept. -/
structure ObjectKey where
  /-- The collection that holds the object. -/
  plural : String
  ns : String
  name : String
deriving DecidableEq, Inhabited

/-- The text at the end of a path of keys, empty if there is none. -/
def textAt (json : Json) (path : List String) : String :=
  ((json.at? path).bind Json.asString).getD ""

def keyOf (json : Json) : ObjectKey :=
  ⟨Api.ResourceType.collection (textAt json ["kind"]), textAt json ["metadata", "namespace"],
    textAt json ["metadata", "name"]⟩

/-- How a request fails. -/
inductive FailureKind where
  | transport (text : String)
  | raw (code : Nat) (body : String)
  | refused (r : Api.Refusal)
deriving Inhabited

/-- Requests that fail.  What is not given fits every request. -/
structure FailureRule where
  verb : Option String
  plural : Option String
  name : Option String
  /-- How often the rule still applies, if not always. -/
  times : Option Nat
  kind : FailureKind
deriving Inhabited

def FailureRule.fits (rule : FailureRule) (verb plural name : String) : Bool :=
  rule.verb.all (· = verb) && rule.plural.all (· = plural) && rule.name.all (· = name) &&
    rule.times ≠ some 0

/-- The first rule that fits, and the rules with one use of it gone. -/
def useFailure (verb plural name : String) :
    List FailureRule → Option (FailureKind × List FailureRule)
  | [] => none
  | rule :: rest =>
    if rule.fits verb plural name then
      some (rule.kind, { rule with times := rule.times.map (· - 1) } :: rest)
    else (useFailure verb plural name rest).map fun (kind, rest) => (kind, rule :: rest)

structure Server where
  /-- The objects in the order in which they came. -/
  objects : List Json := []
  failures : List FailureRule := []
  commands : List CommandRule := []
  nodes : NodeScripts := []
  /-- What happened to the objects, the latest first. -/
  changes : List Api.Change := []
deriving Inhabited

/-- The account that the API gives of a refusal. -/
def refusalJson (r : Api.Refusal) : Json :=
  Json.object [
    ("apiVersion", some (.str "v1")),
    ("code", some (.int r.code)),
    ("kind", some (.str "Status")),
    ("message", some (.str r.message)),
    ("metadata", some (.obj [])),
    ("reason", some (.str r.reason)),
    ("status", some (.str r.status))]

def refuse (r : Api.Refusal) : Api.Reply := .answered r.code (.text (refusalJson r).write)

def absent (plural name : String) : Api.Reply :=
  refuse ⟨"Failure", s!"{plural} \"{name}\" not found", "NotFound", 404⟩

def reply (json : Json) : Api.Reply := .answered 200 (.text json.write)

/-- The account that the API gives of a request that it carried out. -/
def carriedOut : Json :=
  Json.object [
    ("apiVersion", some (.str "v1")), ("kind", some (.str "Status")),
    ("status", some (.str "Success"))]

def FailureKind.reply : FailureKind → Api.Reply
  | transport text => .lost text
  | raw code body => .answered code (.text body)
  | refused r => refuse r

/-- What a command that is answered like any other request comes to. -/
def commandReply : Api.Reply → Api.CommandReply
  | .lost text => .lost text
  | .answered code _ => .notUpgraded code

/-- What comes back of a command that nobody waits for. -/
def plainReply : Api.CommandReply → Api.Reply
  | .lost text => .lost text
  | .notUpgraded code => .answered code (.text "")
  | .ran _ _ _ => .answered 101 (.text "")

/-- Whether an object carries all labels of a selector.  A part without an equals
sign asks for nothing. -/
def carries (selector : String) (json : Json) : Bool :=
  (Text.cut ',' selector.toList).all fun part =>
    match Text.cut '=' part with
    | key :: value :: more =>
      (((json.at? ["metadata", "labels"]).bind (·.get? (String.ofList key))).bind Json.asString) =
        some (String.ofList (Text.join '=' (value :: more)))
    | _ => true

namespace Server

def find? (s : Server) (key : ObjectKey) : Option Json := s.objects.find? fun o => keyOf o = key

/-- Puts an object in the place of the one with its key, or at the end. -/
def replaceIn (key : ObjectKey) (json : Json) : List Json → List Json
  | [] => [json]
  | o :: rest => if keyOf o = key then json :: rest else o :: replaceIn key json rest

/-- Stores an object.  Storing it as it was is no change. -/
def put (s : Server) (key : ObjectKey) (json : Json) : Server :=
  match s.find? key with
  | none => { s with objects := s.objects ++ [json], changes := ⟨.added, json⟩ :: s.changes }
  | some old =>
    if old.isSame json then s
    else
      { s with
        objects := replaceIn key json s.objects
        changes := ⟨.modified, json⟩ :: s.changes }

/-- Takes away the first object with a key. -/
def remove (s : Server) (key : ObjectKey) : Server :=
  match s.find? key with
  | none => s
  | some old =>
    { s with
      objects := s.objects.eraseP fun o => keyOf o = key
      changes := ⟨.deleted, old⟩ :: s.changes }

/-- Merges a patch into an object, if it is there. -/
def patch? (s : Server) (key : ObjectKey) (change : Json) : Option (Json × Server) :=
  (s.find? key).map fun o =>
    let merged := o.mergePatch change
    (merged, s.put key merged)

/-- The stored form of an applied object, which keeps a status that it does not
set. -/
def applied (old : Option Json) (body : Json) : Json :=
  match body.get? "status", old.bind (·.get? "status") with
  | none, some status => body.set "status" status
  | _, _ => body

/-- Whether an object is in a collection, in one namespace or in all of them. -/
def isIn (plural : String) (ns : Option String) (json : Json) : Bool :=
  (keyOf json).plural = plural && ns.all (· = (keyOf json).ns)

def answerCommand (s : Server) (argv : List String) : Api.CommandReply :=
  let rule := ruleFor s.commands argv
  match rule.outcome with
  | .podMissing => .notUpgraded 404
  | .notUpgraded code => .notUpgraded code
  | .ran closing => .ran rule.stdout rule.stderr (closing.map Json.write)

/-- The answer to a request that is not made to fail.  What is applied is kept
under its own name, whatever the address says.  A watch tells what happens from then
on, whatever version it asks for. -/
def answerRequest (s : Server) (a : Arrival) : Api.Reply × Server :=
  let key : ObjectKey := ⟨a.plural, a.ns.getD "", a.name⟩
  match a.verb with
  | .get =>
    match s.find? key with
    | some o => (reply o, s)
    | none => (absent a.plural a.name, s)
  | .watch => (.answered 200 (.changes ⟨a.plural, a.ns, s.changes.length⟩), s)
  | .list =>
    let items := (s.objects.filter (isIn a.plural a.ns)).filter
      (carries ((a.options.get? "labelSelector").getD ""))
    (reply (Json.object [
      ("items", some (.arr items)),
      ("metadata", some (.obj [("resourceVersion", .str (toString s.changes.length))]))]), s)
  | .apply =>
    let body := a.body.getD .null
    let stored := applied (s.find? (keyOf body)) body
    (reply stored, s.put (keyOf body) stored)
  | .merge =>
    match s.patch? key (a.body.getD .null) with
    | some (merged, s) => (reply merged, s)
    | none => (absent a.plural a.name, s)
  | .create => (reply (a.body.getD .null), s)
  | .delete =>
    match s.find? key with
    | some _ => (reply carriedOut, s.remove key)
    | none => (absent a.plural a.name, s)
  | .execute => (plainReply (s.answerCommand a.command), s)

/-- The failure that a request is made to have, and the server with one use of it
gone. -/
def failureOf? (s : Server) (a : Arrival) : Option (Api.Reply × Server) :=
  (useFailure a.verb.name a.plural a.name s.failures).map fun (kind, failures) =>
    (kind.reply, { s with failures })

def answer : (q : Api.Query) → Server → q.Answer × Server
  | .request r, s =>
    let a := Arrival.ofRequest r
    (s.failureOf? a).getD (s.answerRequest a)
  | .command pod container argv, s =>
    let a := Arrival.ofCommand pod container argv
    match s.failureOf? a, a.verb with
    | some (reply, s), _ => (commandReply reply, s)
    | none, .execute => (s.answerCommand a.command, s)
    | none, _ =>
      let (reply, s) := s.answerRequest a
      (commandReply reply, s)
  | .store call, s => (answerStore s.nodes call, s)

/-- Runs work against the server. -/
def perform {α : Type} (s : Server) (work : Api.Work α) :
    α × List (Exchange Api.interface) × Server :=
  work.runLogged answer s

end Server
end Sandbox
end RedisKeeper
