import RedisKeeper.Health
import RedisKeeper.Reconcile.Tick

/-
What follows from a look at a resource: when the next one is due, and what the
operator's health has to say about it.
-/
namespace RedisKeeper
namespace Reconcile

/-- When to look at the object again. -/
def Tick.requeue (t : Tick) : Requeue :=
  match t.result with
  | .ok requeue => requeue
  | .error e => e.requeue

/-- The failure that a look ended with. -/
def Tick.failure? (t : Tick) : Option Error :=
  match t.result with
  | .ok _ => none
  | .error e => some e

/-- Records a failure with an object. -/
def recordFailure (o : Owner) (h : Health) : Health := h.record (failureOf o)

/-- Records what came of a look that took some seconds. -/
def Tick.settle (t : Tick) (o : Owner) (now : Instant) (seconds : Float) (h : Health) : Health :=
  match t.result with
  | .error _ => recordFailure o h
  | .ok _ =>
    match t.observations with
    | none => h
    | some observations =>
      { h with metrics := h.metrics.recordAll (observations seconds) }.touch now

end Reconcile
end RedisKeeper
