import RedisKeeper.Json.Format

/-
Conditions: what a status says about each aspect of a resource.

Setting a condition replaces the one for the same aspect in its place, or adds
it at the end (`map_aspect_set`).  The time of the last transition only moves
when the status text does.
-/
namespace RedisKeeper

open Json

structure Condition where
  /-- What the condition is about, such as readiness. -/
  aspect : String
  /-- `True`, `False` or `Unknown`. -/
  status : String
  reason : String
  message : String
  lastTransitionTime : String
  observedGeneration : Option Int64
deriving DecidableEq, Inhabited

namespace Condition

def toJson (c : Condition) : Json :=
  object [
    ("lastTransitionTime", some (.str c.lastTransitionTime)),
    ("message", some (.str c.message)),
    ("observedGeneration", c.observedGeneration.map ofInt64),
    ("reason", some (.str c.reason)),
    ("status", some (.str c.status)),
    ("type", some (.str c.aspect))]

def format : Format Condition :=
  .declared "Condition" <| Condition.mk
    <$> .required "type" .text
    <*> .required "status" .text
    <*> .required "reason" .text
    <*> .required "message" .text
    <*> .required "lastTransitionTime" .text
    <*> .nullable "observedGeneration" .int64

def ofJson? (json : Json) : Option Condition := format.decode json

def statusText (holds : Bool) : String := if holds then "True" else "False"

def holds (c : Condition) : Bool := c.status = "True"

end Condition

/-- What one pass has to say about an aspect. -/
structure Verdict where
  holds : Bool
  reason : String
  message : String

/-- The condition that states a verdict reached at a time. -/
def Verdict.condition (v : Verdict) (aspect now : String) (generation : Option Int64) :
    Condition where
  aspect := aspect
  status := Condition.statusText v.holds
  reason := v.reason
  message := v.message
  lastTransitionTime := now
  observedGeneration := generation

abbrev Conditions := List Condition

namespace Conditions

/-- The condition with the transition time of the one it follows, if the status
stays. -/
def follow (old new : Condition) : Condition :=
  if old.status = new.status then { new with lastTransitionTime := old.lastTransitionTime }
  else new

def set (new : Condition) : Conditions → Conditions
  | [] => [new]
  | old :: rest =>
    if old.aspect = new.aspect then follow old new :: rest else old :: set new rest

def find? (aspect : String) (cs : Conditions) : Option Condition :=
  List.find? (fun c => c.aspect = aspect) cs

/-- Whether the first condition for an aspect says that it holds. -/
def holds (aspect : String) (cs : Conditions) : Bool :=
  (cs.find? aspect).any Condition.holds

@[simp] theorem follow_aspect (old new : Condition) : (follow old new).aspect = new.aspect := by
  unfold follow
  split <;> rfl

@[simp] theorem follow_status (old new : Condition) : (follow old new).status = new.status := by
  unfold follow
  split <;> rfl

/-- Setting keeps the order of the aspects and adds a new one at the end. -/
theorem map_aspect_set (new : Condition) (cs : Conditions) :
    (set new cs).map Condition.aspect =
      if new.aspect ∈ cs.map Condition.aspect then cs.map Condition.aspect
      else cs.map Condition.aspect ++ [new.aspect] := by
  induction cs with
  | nil => simp [set]
  | cons old rest ih =>
    by_cases h : old.aspect = new.aspect
    · simp [set, h]
    · simp only [set, h, if_false, List.map_cons, ih, List.mem_cons, Ne.symm h, false_or]
      split <;> rfl

end Conditions
end RedisKeeper
