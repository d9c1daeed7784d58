import RedisKeeper.Api.Shape.Workload

/-
What the operator reads of objects of the kinds that Kubernetes itself defines.
-/
namespace RedisKeeper
namespace Api

open Json

/-- The metadata of an object, empty if there is none. -/
def metadataOf? (json : Json) : Option Metadata :=
  (Record.ofObject? json).bind fun r => r.orDefault "metadata" {} Metadata.format.decode

def serviceFormat : Format Metadata := ⟨Shape.service, metadataOf?⟩

def claimFormat : Format Metadata := ⟨Shape.claim, metadataOf?⟩

/-- What is read of a StatefulSet. -/
structure StatefulSetState where
  metadata : Metadata
  readyReplicas : Option Int32
deriving Inhabited

/-- The field at the end of a path, if there is one and it is not null. -/
def asAt? {α : Type} (path : List String) (read : Json → Option α) (json : Json) : Option α :=
  (json.at? path).bind read

def statefulSetFormat : Format StatefulSetState :=
  ⟨Shape.statefulSet, fun json => do
    return {
      metadata := ← metadataOf? json
      readyReplicas := asAt? ["status", "readyReplicas"] asInt32 json }⟩

/-- What is read of a pod. -/
structure PodState where
  metadata : Metadata
  /-- The names of the containers, if the pod has a spec. -/
  containers : Option (List String)
  ip : Option String
deriving Inhabited

/-- The names of the containers of a pod with a spec.  One without a name has the
empty one. -/
def containerNames (spec : Json) : List String :=
  ((asAt? ["containers"] (asList some) spec).getD []).map fun container =>
    (asAt? ["name"] asString container).getD ""

def podFormat : Format PodState :=
  ⟨Shape.pod, fun json => do
    return {
      metadata := ← metadataOf? json
      containers := ((json.get? "spec").bind (orNull some)).join.map containerNames
      ip := asAt? ["status", "podIP"] asString json }⟩

/-- An object of which only the metadata was asked for. -/
def metadataFormat : Format Metadata :=
  .flattened "PartialObjectMetadata" (.defaulted "metadata" {} Metadata.format)

end Api
end RedisKeeper
