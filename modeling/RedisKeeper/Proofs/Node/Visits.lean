import RedisKeeper.Proofs.Node.Log

/-
Visits to nodes.

A visit is all that is asked about the node of one pod while nothing else is asked: first its
address and then, in one session or in an attempt at one, calls to that address
(`Visit.log`).
-/
namespace RedisKeeper
namespace Node

/-- A command to a node in a session, with its answer. -/
inductive Command where
  | nodes (answer : Except Store.Error String)
  | reset (answer : Except Store.Error Unit)
  | flush (answer : Except Store.Error Unit)

def Command.exchange (host : String) : Command → Exchange interface
  | nodes answer => called (.nodes host) answer
  | reset answer => called (.reset host) answer
  | flush answer => called (.flush host) answer

/-- What is asked of the node of one pod. -/
inductive Visit where
  /-- The pod has no address. -/
  | unresolved (pod : PodName) (e : Error)
  /-- The node does not let itself be connected to. -/
  | refused (pod : PodName) (a : Address) (e : Store.Error)
  | session (pod : PodName) (a : Address) (commands : List Command)
      (closing : Except Store.Error Unit)

namespace Visit

def pod : Visit → PodName
  | unresolved pod _ | refused pod _ _ | session pod _ _ _ => pod

def address : Visit → Except Error Address
  | unresolved _ e => .error e
  | refused _ a _ | session _ a _ _ => .ok a

/-- The calls to the node, in order. -/
def calls (tcp : UInt16) : Visit → Log
  | unresolved _ _ => []
  | refused _ a e => [called (.connect a.host tcp) (.error e)]
  | session _ a commands closing =>
    called (.connect a.host tcp) (.ok ()) ::
      commands.map (Command.exchange a.host) ++ [called (.close a.host) closing]

/-- All that is asked, in order. -/
def log (tcp : UInt16) (v : Visit) : Log := resolved v.pod v.address :: v.calls tcp

end Visit

variable {tcp : UInt16}

theorem Visit.isCall_of_mem_calls {v : Visit} {e : Exchange interface} (he : e ∈ v.calls tcp) :
    e.query.isCall = true := by
  cases v with
  | unresolved => exact absurd he List.not_mem_nil
  | refused =>
    rw [List.mem_singleton.mp he]
    rfl
  | session pod a commands closing =>
    rcases List.mem_append.mp he with he | he
    · rcases List.mem_cons.mp he with rfl | he
      · rfl
      · obtain ⟨command, -, rfl⟩ := List.mem_map.mp he
        cases command <;> rfl
    · rw [List.mem_singleton.mp he]
      rfl

theorem Visit.filter_log (v : Visit) : (v.log tcp).filter (·.query.isCall) = v.calls tcp := by
  have hcalls : (v.calls tcp).filter (·.query.isCall) = v.calls tcp :=
    List.filter_eq_self.mpr fun _ he => isCall_of_mem_calls he
  rw [Visit.log, List.filter_cons_of_neg Bool.false_ne_true, hcalls]

end Node
end RedisKeeper
