import RedisKeeper.Address.Reader
import RedisKeeper.Api.Request
import RedisKeeper.Api.Builtin
import RedisKeeper.Api.Shape.Outcome
import RedisKeeper.Node.Call
import RedisKeeper.Text.Utf8

/-
Pods by way of the Kubernetes API: their addresses, and commands run in them.
-/
namespace RedisKeeper
namespace Api

/-- The address of a pod, or what is wrong with it. -/
def PodState.address (pod : PodState) : Except String Address :=
  match pod.ip.filter fun ip => !ip.isEmpty with
  | none => .error "pod has no IP assigned"
  | some ip =>
    match Address.read? ip with
    | some address => .ok address
    | none => .error s!"invalid pod IP {Text.quoted ip}: invalid IP address syntax"

/-- The name of the StatefulSet that a pod's name tells: what stands before the
last hyphen, if digits stand behind it. -/
def setNameOf? (pod : String) : Option String :=
  match (Text.cut '-' pod.toList).reverse with
  | ordinal :: before :: more =>
    let base := Text.join '-' (before :: more).reverse
    if !base.isEmpty && !ordinal.isEmpty && ordinal.all Char.isDigit then
      some (String.ofList base)
    else none
  | _ => none

/-- The container that runs Redis: the one named after the StatefulSet, or else
the first. -/
def PodState.redisContainer? (pod : PodState) (name : String) : Option String :=
  match pod.containers with
  | none => none
  | some containers =>
    match containers.find? fun c => some c = setNameOf? name with
    | some c => some c
    | none => containers.head?

def getPod (pod : PodName) : Work (Except Node.Error PodState) := do
  match ← get? .pod podFormat pod.ns pod.name with
  | .error e => return .error (.api e)
  | .ok none => return .error (.notFound pod)
  | .ok (some state) => return .ok state

def resolve (pod : PodName) : Work (Except Node.Error Address) := do
  match ← getPod pod with
  | .error e => return .error e
  | .ok state =>
    match state.address with
    | .ok address => return .ok address
    | .error reason => return .error (.noAddress pod reason)

/-- How a command ended, as far as the API tells. -/
structure Closing where
  status : Option String
  message : Option String
deriving DecidableEq, Inhabited

/-- The account that the API gives of how a command ended. -/
def Closing.format : Json.Format Closing :=
  ⟨Shape.outcome, fun json =>
    some ⟨asAt? ["status"] Json.asString json, asAt? ["message"] Json.asString json⟩⟩

/-- What is wrong with a command that ended in this way, if anything. -/
def failureOf? (closing : String) : Option String :=
  match Closing.format.read closing with
  | .error complaint => some s!"failed to deserialize status object: {complaint.text}"
  | .ok ⟨some "Failure", message⟩ => some (message.getD "command exited with failure")
  | .ok _ => none

/-- What a command came to. -/
def CommandReply.result (pod : PodName) : CommandReply → Except Node.Error Node.Output
  | lost text => .error (.command pod (Error.transport text).message "" "")
  | notUpgraded code => .error (.command pod (Error.notUpgraded code).message "" "")
  | ran stdout stderr closing =>
    let stdout := Text.decodeUtf8 stdout
    let stderr := Text.decodeUtf8 stderr
    match closing.bind failureOf? with
    | some reason => .error (.command pod reason stdout stderr)
    | none => .ok ⟨stdout, stderr⟩

def execute (pod : PodName) (argv : List String) : Work (Except Node.Error Node.Output) := do
  match ← getPod pod with
  | .error e => return .error e
  | .ok state =>
    match state.redisContainer? pod.name with
    | none => return .error (.command pod "pod has no containers" "" "")
    | some container =>
      let reply : CommandReply ← .ask (Query.command pod container argv) .done
      return reply.result pod

/-- Answers what a pass over a cluster asks. -/
def answer : (q : Node.Query) → Work q.Answer
  | .resolve pod => resolve pod
  | .execute pod argv => execute pod argv
  | .store call => .ask (Query.store call) .done

/-- A pass's work done by way of the API. -/
def perform {α : Type} (work : Node.Work α) : Work α := work.via answer

end Api
end RedisKeeper
