import RedisKeeper.Api.Request
import RedisKeeper.Instant
import RedisKeeper.Manifest.Owner

/-
Events: notes about what the operator did to an object, for people to read.

An event that cannot be written is given up.
-/
namespace RedisKeeper
namespace Api

open Json

inductive EventType where
  | normal
  | warning
deriving DecidableEq

def EventType.name : EventType → String
  | normal => "Normal"
  | warning => "Warning"

structure Event where
  type : EventType
  reason : String
  action : String
  note : String
deriving DecidableEq

namespace Event

/-- The object that an event is about. -/
def regarding (o : Owner) : Json :=
  object [
    ("apiVersion", some (.str Owner.apiVersion)),
    ("kind", some (.str o.kind)),
    ("name", o.metadata.name.map .str),
    ("namespace", o.metadata.ns.map .str),
    ("uid", o.metadata.uid.map .str)]

/-- The namespace of an event: that of its object, or `default`. -/
def nsOf (o : Owner) : String :=
  match o.metadata.ns with
  | some ns => if ns.isEmpty then "default" else ns
  | none => "default"

def toJson (e : Event) (reporter : String) (o : Owner) (now : Instant) : Json :=
  object [
    ("action", some (.str e.action)),
    ("apiVersion", some (.str ResourceType.event.apiVersion)),
    ("eventTime", some (.str now.text)),
    ("kind", some (.str ResourceType.event.kind)),
    ("metadata", some (object [
      ("name", some (.str (o.metadata.name.getD managerName ++ "." ++ now.stamp))),
      ("namespace", some (.str (nsOf o)))])),
    ("note", some (.str e.note)),
    ("reason", some (.str e.reason)),
    ("regarding", some (regarding o)),
    ("reportingController", some (.str managerName)),
    ("reportingInstance", some (.str reporter)),
    ("type", some (.str e.type.name))]

/-- Writes an event about an object. -/
def publish (e : Event) (reporter : String) (o : Owner) (now : Instant) : Work Unit := do
  let _ ← send {
    verb := .create, resource := .event, ns := some (nsOf o)
    body := some (e.toJson reporter o now) }
  return ()

end Event
end Api
end RedisKeeper
