import RedisKeeper.Json.Format
import RedisKeeper.Resource.Timestamp

/-
The part that all objects share: who they are, whom they belong to, and what
keeps them from going away.
-/
namespace RedisKeeper

/-- A link from an object to the one it belongs to. -/
structure OwnerReference where
  apiVersion : String
  kind : String
  name : String
  uid : String
  controller : Option Bool
  blockOwnerDeletion : Option Bool
deriving DecidableEq

structure Metadata where
  name : Option String := none
  generateName : Option String := none
  ns : Option String := none
  uid : Option String := none
  resourceVersion : Option String := none
  generation : Option Int64 := none
  labels : Option StringMap := none
  annotations : Option StringMap := none
  finalizers : Option (List String) := none
  ownerReferences : Option (List OwnerReference) := none
  creationTimestamp : Option Timestamp := none
  deletionTimestamp : Option Timestamp := none
deriving DecidableEq, Inhabited

namespace OwnerReference

open Json

def toJson (r : OwnerReference) : Json :=
  object [
    ("apiVersion", some (.str r.apiVersion)),
    ("blockOwnerDeletion", r.blockOwnerDeletion.map .bool),
    ("controller", r.controller.map .bool),
    ("kind", some (.str r.kind)),
    ("name", some (.str r.name)),
    ("uid", some (.str r.uid))]

def format : Format OwnerReference :=
  .lenient "OwnerReference" <| OwnerReference.mk
    <$> .orDefault "apiVersion" "" .text
    <*> .orDefault "kind" "" .text
    <*> .orDefault "name" "" .text
    <*> .orDefault "uid" "" .text
    <*> .optional "controller" .truth
    <*> .optional "blockOwnerDeletion" .truth

end OwnerReference

namespace Metadata

open Json

/-- The name, or what it is to be generated from, or nothing. -/
def displayName (m : Metadata) : String := m.name.getD (m.generateName.getD "")

def labelMap (m : Metadata) : StringMap := m.labels.getD .empty

def annotationMap (m : Metadata) : StringMap := m.annotations.getD .empty

def finalizerList (m : Metadata) : List String := m.finalizers.getD []

def toJson (m : Metadata) : Json :=
  object [
    ("annotations", m.annotations.map ofMap),
    ("creationTimestamp", m.creationTimestamp.map fun t => .str t.text),
    ("deletionTimestamp", m.deletionTimestamp.map fun t => .str t.text),
    ("finalizers", m.finalizers.map strings),
    ("generateName", m.generateName.map .str),
    ("generation", m.generation.map ofInt64),
    ("labels", m.labels.map ofMap),
    ("name", m.name.map .str),
    ("namespace", m.ns.map .str),
    ("ownerReferences", m.ownerReferences.map fun refs => .arr (refs.map OwnerReference.toJson)),
    ("resourceVersion", m.resourceVersion.map .str),
    ("uid", m.uid.map .str)]

/-- A moment in a text. -/
def moment : Format Timestamp :=
  .textOf "an RFC 3339 formatted date and time string" fun s =>
    (Timestamp.read s).mapError Timestamp.Misread.text

/-- A note on who last set which fields of an object. -/
def fieldsEntryShape : Shape := .object "ManagedFieldsEntry" [
  ("apiVersion", .anyText), ("fieldsType", .anyText), ("fieldsV1", .any), ("manager", .anyText),
  ("operation", .anyText), ("subresource", .anyText), ("time", moment.shape)]

def format : Format Metadata :=
  .lenient "ObjectMeta" <| Metadata.mk
    <$> .optional "name" .text
    <*> .optional "generateName" .text
    <*> .optional "namespace" .text
    <*> .optional "uid" .text
    <*> .optional "resourceVersion" .text
    <*> .optional "generation" .int64
    <*> .optional "labels" .textMap
    <*> .optional "annotations" .textMap
    <*> .optional "finalizers" (.list .text)
    <*> .optional "ownerReferences" (.list OwnerReference.format)
    <*> .optional "creationTimestamp" moment
    <*> .optional "deletionTimestamp" moment
    <* .unread "deletionGracePeriodSeconds" .int64
    <* .unread "managedFields" (.list fieldsEntryShape)
    <* .unread "selfLink" .anyText

def ofJson? (json : Json) : Option Metadata := format.decode json

end Metadata
end RedisKeeper
