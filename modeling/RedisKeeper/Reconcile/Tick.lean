import RedisKeeper.Api.Event
import RedisKeeper.Instant
import RedisKeeper.Metrics.Basic
import RedisKeeper.Node.Pass
import RedisKeeper.Reconcile.Error

/-
One look at a resource: what it is given and what it leaves behind.
-/
namespace RedisKeeper
namespace Reconcile

/-- What each look at a resource is given. -/
structure Setting where
  /-- The name under which events are reported. -/
  reporter : String
  tools : Node.Tools
  /-- What the clock shows whenever it is read in the course of the look.  Nothing that
  happens in a look depends on it, only the times in what is written. -/
  now : Instant

/-- What came of one look. -/
structure Tick where
  result : Except Error Requeue
  /-- The report of the pass over the cluster, if there was one. -/
  report : Option Report := none
  /-- What is to be recorded of a look that came to its end, given the seconds
  that it took. -/
  observations : Option (Float → List Metrics.Observation) := none

namespace Tick

def failed (e : Error) : Tick := { result := .error e }

/-- A look that ends early and in order. -/
def ended (requeue : Requeue) : Tick := { result := .ok requeue }

end Tick

/-- Publishes an event about a resource. -/
def Setting.publish (s : Setting) (o : Owner) (type : Api.EventType)
    (reason action note : String) : Api.Work Unit :=
  Api.Event.publish ⟨type, reason, action, note⟩ s.reporter o s.now

/-- What is recorded of a failure with an object. -/
def failureOf (o : Owner) : Metrics.Observation :=
  .failed ⟨o.kind, o.metadata.ns.getD "default", o.name⟩

end Reconcile
end RedisKeeper
