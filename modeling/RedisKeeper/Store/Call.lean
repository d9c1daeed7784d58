import RedisKeeper.Program

/-
Talking to one Redis node.

A session is opened with `connect`, and the calls that follow name its host
until `close`.
-/
namespace RedisKeeper
namespace Store

inductive Error where
  /-- The node or the connection to it failed. -/
  | failed (text : String)
  | invalidConfig (text : String)
deriving DecidableEq, Inhabited

def Error.message : Error → String
  | .failed text => s!"Redis error: {text}"
  | .invalidConfig text => s!"Invalid configuration: {text}"

inductive Call where
  | connect (host : String) (tcp : UInt16)
  /-- The node's table of all nodes. -/
  | nodes (host : String)
  /-- Makes the node leave its cluster. -/
  | reset (host : String)
  /-- Removes all data from the node. -/
  | flush (host : String)
  | close (host : String)
deriving DecidableEq

namespace Call

abbrev Answer : Call → Type
  | nodes _ => Except Error String
  | _ => Except Error Unit

/-- A session needs a host.  Whether one can be opened is settled here for the
empty host and by the network for any other. -/
def checkHost (host : String) : Except Error Unit :=
  if host.isEmpty then .error (.invalidConfig "empty host") else .ok ()

end Call
end Store
end RedisKeeper
