import RedisKeeper.Address.Writer
import RedisKeeper.Api.Error
import RedisKeeper.Store.Call
import RedisKeeper.Topology.Target

/-
What a pass over a cluster can ask for: the address of a pod, a command run in a
pod, and calls to the Redis node behind an address.
-/
namespace RedisKeeper
namespace Node

inductive Error where
  /-- The pod does not exist, or not yet. -/
  | notFound (pod : PodName)
  /-- The pod has no address that can be used. -/
  | noAddress (pod : PodName) (reason : String)
  | api (e : Api.Error)
  /-- The command could not be run or failed. -/
  | command (pod : PodName) (message stdout stderr : String)
  | store (e : Store.Error)
deriving DecidableEq, Inhabited

namespace Error

def message : Error → String
  | notFound pod => s!"pod {pod.text} not found"
  | noAddress pod reason => s!"pod {pod.text} has no usable address: {reason}"
  | api e => s!"Kubernetes API error: {e.message}"
  | command pod message _ _ => s!"command failed in {pod.text}: {message}"
  | store e => s!"store error: {e.message}"

/-- Whether the pod is only not there yet, as happens while a group grows. -/
def isPending : Error → Bool
  | notFound _ | noAddress _ _ => true
  | _ => false

end Error

/-- What a command wrote. -/
structure Output where
  stdout : String
  stderr : String
deriving DecidableEq, Inhabited

inductive Query where
  | resolve (pod : PodName)
  | execute (pod : PodName) (argv : List String)
  | store (call : Store.Call)

abbrev Query.Answer : Query → Type
  | resolve _ => Except Error Address
  | execute _ _ => Except Error Output
  | store call => call.Answer

abbrev interface : Interface := ⟨Query, Query.Answer⟩

abbrev Work (α : Type) := Program interface α

def resolve (pod : PodName) : Work (Except Error Address) :=
  .ask (Query.resolve pod) .done

def execute (pod : PodName) (argv : List String) : Work (Except Error Output) :=
  .ask (Query.execute pod argv) .done

def store (call : Store.Call) : Work call.Answer :=
  .ask (Query.store call) .done

/-- What a pass is told about the nodes it meets. -/
structure Tools where
  /-- The program that forms clusters, run inside pods. -/
  program : String
  /-- The TCP port of the nodes. -/
  tcp : UInt16
deriving DecidableEq, Inhabited

end Node
end RedisKeeper
