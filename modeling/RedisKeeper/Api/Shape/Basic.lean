import RedisKeeper.Api.Resource
import RedisKeeper.Resource.Metadata

/-
Shapes that the built-in kinds of Kubernetes share.
-/
namespace RedisKeeper
namespace Api
namespace Shape

open Json

/-- An object of a kind of its own, which has to be of that kind where it says
one. -/
def root (t : ResourceType) (fields : List (String × Json.Shape)) : Json.Shape :=
  .record t.kind .lenient <|
    [("apiVersion", .defaulted, .only t.apiVersion), ("kind", .defaulted, .only t.kind),
      ("metadata", .optional, Metadata.format.shape)] ++
    fields.map fun field => (field.1, .optional, field.2)

def texts : Json.Shape := .list .anyText

def textMap : Json.Shape := .map .anyText

def moment : Json.Shape := Metadata.moment.shape

/-- An object with nothing but a name. -/
def named (title : String) : Json.Shape := .object title [("name", .anyText)]

/-- The name of an object in the same namespace. -/
def localReference : Json.Shape := named "LocalObjectReference"

/-- Conditions on keys. -/
def requirements (title : String) : Json.Shape := .list <| .object title [
  ("key", .anyText), ("operator", .anyText), ("values", texts)]

def selector : Json.Shape := .object "LabelSelector" [
  ("matchExpressions", requirements "LabelSelectorRequirement"), ("matchLabels", textMap)]

/-- Amounts that are asked for and amounts that are the most. -/
def amounts : List (String × Json.Shape) := [("limits", textMap), ("requests", textMap)]

def resources : Json.Shape := .object "ResourceRequirements" <|
  ("claims", .list (.object "ResourceClaim" [("name", .anyText), ("request", .anyText)])) ::
    amounts

/-- Keys of a stored map with the paths of the files that hold them. -/
def fileItems : Json.Shape := .list <| .object "KeyToPath" [
  ("key", .anyText), ("mode", .int32), ("path", .anyText)]

/-- A field of the object itself. -/
def fieldReference : Json.Shape := .object "ObjectFieldSelector" [
  ("apiVersion", .anyText), ("fieldPath", .anyText)]

/-- An amount that a container has. -/
def resourceReference : Json.Shape := .object "ResourceFieldSelector" [
  ("containerName", .anyText), ("divisor", .anyText), ("resource", .anyText)]

/-- What all conditions of built-in kinds have. -/
def condition (title : String) (more : List (String × Json.Shape)) : Json.Shape :=
  .object title <| [
    ("lastTransitionTime", moment), ("message", .anyText), ("reason", .anyText),
    ("status", .anyText), ("type", .anyText)] ++ more

end Shape
end Api
end RedisKeeper
