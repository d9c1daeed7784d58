import RedisKeeper.Api.Builtin
import RedisKeeper.Manifest.Service
import RedisKeeper.Reconcile.Error

/-
Bringing the objects of a Redis resource into being, and reading back how they
fare.
-/
namespace RedisKeeper
namespace Reconcile

/-- Applies an object.  The result tells whether it was not there before. -/
def provide {α : Type} (t : Api.ResourceType) (f : Json.Format α) (metadata : Metadata)
    (body : Json) : Act Bool := do
  match metadata.name, metadata.ns with
  | none, _ => throw (.missingField "metadata.name")
  | _, none => throw (.missingField "metadata.namespace")
  | some name, some ns =>
    let existing ← attempt (Api.get? t f ns name)
    let _ ← attempt (Api.apply t f ns name body)
    return existing.isNone

def provideStatefulSet (s : Manifest.StatefulSet) : Act Bool :=
  provide .statefulSet Api.statefulSetFormat s.metadata s.toJson

def provideServices : List Manifest.Service → Act Unit
  | [] => return ()
  | s :: rest => do
    let _ ← provide .service Api.serviceFormat s.metadata s.toJson
    provideServices rest

/-- The number of ready pods of a StatefulSet, zero if there is no such set. -/
def readReady (ns name : String) : Act Int32 := do
  let state ← attempt (Api.get? .statefulSet Api.statefulSetFormat ns name)
  return (state.bind (·.readyReplicas)).getD 0

/-- The text that selects the objects with all of some labels. -/
def selectorText (labels : StringMap) : String :=
  ",".intercalate (labels.entries.map fun entry => entry.1 ++ "=" ++ entry.2)

end Reconcile
end RedisKeeper
