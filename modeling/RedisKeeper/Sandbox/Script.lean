import RedisKeeper.Api.Pod

/-
Scripted behaviour of the world around the operator, for rehearsals.

Redis nodes answer from a table and fail where they are told to; commands go by
the first rule that fits their arguments.
-/
namespace RedisKeeper
namespace Sandbox

/-- How a node behaves.  A text under a call makes the call fail with it. -/
structure NodeScript where
  table : Option String := none
  connect : Option String := none
  nodes : Option String := none
  reset : Option String := none
  flush : Option String := none
  close : Option String := none
deriving Inhabited

/-- Nodes by their hosts.  One that is not listed accepts everything and has no
table. -/
abbrev NodeScripts := List (String × NodeScript)

def NodeScripts.at (scripts : NodeScripts) (host : String) : NodeScript :=
  (List.lookup host scripts).getD {}

/-- The other scripts with one added or replaced. -/
def NodeScripts.put (scripts : NodeScripts) (host : String) (script : NodeScript) :
    NodeScripts :=
  (host, script) :: scripts.filter fun entry => entry.1 ≠ host

def failing (text : Option String) : Except Store.Error Unit :=
  match text with
  | some text => .error (.invalidConfig text)
  | none => .ok ()

def answerStore (scripts : NodeScripts) : (call : Store.Call) → call.Answer
  | .connect host _ => failing (scripts.at host).connect
  | .nodes host =>
    match (scripts.at host).nodes, (scripts.at host).table with
    | some text, _ => .error (.invalidConfig text)
    | none, some table => .ok table
    | none, none => .error (.invalidConfig "cluster support disabled")
  | .reset host => failing (scripts.at host).reset
  | .flush host => failing (scripts.at host).flush
  | .close host => failing (scripts.at host).close

/-- What becomes of a command. -/
inductive CommandOutcome where
  /-- The pod is gone. -/
  | podMissing
  /-- The connection is answered with a status code in place of being opened. -/
  | notUpgraded (code : Nat)
  /-- The command runs, and this is told of its end. -/
  | ran (closing : Option Json)
deriving Inhabited

structure CommandRule where
  /-- The argument that a command must have, if it must have any. -/
  argument : Option String
  outcome : CommandOutcome
  stdout : List UInt8
  stderr : List UInt8
deriving Inhabited

def success : Json := Json.object [("status", some (.str "Success"))]

def failure (message : String) : Json :=
  Json.object [("status", some (.str "Failure")), ("message", some (.str message))]

/-- The rule for a command, by default success without output. -/
def ruleFor (rules : List CommandRule) (argv : List String) : CommandRule :=
  (rules.find? fun rule => rule.argument.all (· ∈ argv)).getD ⟨none, .ran (some success), [], []⟩

/-! ## Pods without an API -/

/-- What is known about a pod. -/
inductive PodScript where
  | ip (text : Option String)
  | refused (r : Api.Refusal)
deriving Inhabited

/-- A world of pods and nodes. -/
structure PodWorld where
  pods : List (String × PodScript) := []
  nodes : NodeScripts := []
  commands : List CommandRule := []
deriving Inhabited

namespace PodWorld

def resolve (w : PodWorld) (pod : PodName) : Except Node.Error Address :=
  match List.lookup pod.name w.pods with
  | none => .error (.notFound pod)
  | some (.refused r) => .error (.api (.refused r))
  | some (.ip text) =>
    match Api.PodState.address { metadata := {}, containers := none, ip := text } with
    | .ok address => .ok address
    | .error reason => .error (.noAddress pod reason)

def execute (w : PodWorld) (pod : PodName) (argv : List String) :
    Except Node.Error Node.Output :=
  let rule := ruleFor w.commands argv
  match rule.outcome with
  | .podMissing => .error (.notFound pod)
  | .notUpgraded code => (Api.CommandReply.notUpgraded code).result pod
  | .ran closing =>
    (Api.CommandReply.ran rule.stdout rule.stderr (closing.map Json.write)).result pod

def answer (w : PodWorld) : (q : Node.Query) → q.Answer
  | .resolve pod => w.resolve pod
  | .execute pod argv => w.execute pod argv
  | .store call => answerStore w.nodes call

/-- Runs work in the world, which it does not change. -/
def perform {α : Type} (w : PodWorld) (work : Node.Work α) :
    α × List (Exchange Node.interface) :=
  let (a, log, _) := work.runLogged (fun q (_ : Unit) => (w.answer q, ())) ()
  (a, log)

end PodWorld
end Sandbox
end RedisKeeper
