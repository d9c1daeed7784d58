import RedisKeeper.Api.Request
import RedisKeeper.Topology.Decision

/-
Why the operator could not finish with an object, and when it tries again.
-/
namespace RedisKeeper
namespace Reconcile

inductive Error where
  | api (e : Api.Error)
  | missingField (name : String)
  /-- The user's description cannot be met. -/
  | invalid (message : String)
  /-- A status could not be written as JSON. -/
  | unwritable (message : String)
deriving DecidableEq, Inhabited

namespace Error

def message : Error → String
  | api e => s!"Kubernetes API error: {e.message}"
  | missingField name => s!"Missing required field: {name}"
  | invalid message => s!"Validation error: {message}"
  | unwritable message => s!"Serialization error: {message}"

def meansAbsent : Error → Bool
  | api e => e.meansAbsent
  | _ => false

/-- Whether the same request may well work a little later. -/
def isTemporary : Error → Bool
  | api (.refused r) => 500 ≤ r.code || r.code = 429 || r.code = 409
  | api (.transport _) => true
  | _ => false

/-- The seconds to wait before the next attempt. -/
def delay (e : Error) : Nat := if e.isTemporary then 30 else 300

/-- When to look at the object again.  One that is gone is left alone. -/
def requeue (e : Error) : Requeue := if e.meansAbsent then .none else .after e.delay

end Error

/-- Work that may fail. -/
abbrev Act (α : Type) := ExceptT Error Api.Work α

/-- Work with the API as work that may fail. -/
def attempt {α : Type} (work : Api.Work (Except Api.Error α)) : Act α :=
  ExceptT.mk do return (← work).mapError .api

end Reconcile
end RedisKeeper
