import RedisKeeper.Json.Format

/-
The settings that both kinds of Redis resource take from their users.
-/
namespace RedisKeeper

open Json

/-- Amounts of processor time and memory. -/
structure Quantities where
  cpu : Option String := none
  memory : Option String := none
deriving DecidableEq, Inhabited

namespace Quantities

def toJson (q : Quantities) : Json :=
  object [("cpu", q.cpu.map .str), ("memory", q.memory.map .str)]

def format : Format Quantities :=
  .declared "Quantities" <| Quantities.mk
    <$> .optional "cpu" .text
    <*> .optional "memory" .text

/-- The amounts that are set, under their resource names. -/
def toMap (q : Quantities) : StringMap :=
  .ofList ((q.cpu.map (("cpu", ·))).toList ++ (q.memory.map (("memory", ·))).toList)

end Quantities

/-- What a container asks for and what it may use at most. -/
structure ResourceBounds where
  requests : Option Quantities := none
  limits : Option Quantities := none
deriving DecidableEq, Inhabited

namespace ResourceBounds

def toJson (b : ResourceBounds) : Json :=
  object [("limits", b.limits.map (·.toJson)), ("requests", b.requests.map (·.toJson))]

def format : Format ResourceBounds :=
  .declared "ResourceBounds" <| ResourceBounds.mk
    <$> .optional "requests" Quantities.format
    <*> .optional "limits" Quantities.format

end ResourceBounds

/-- Settings of the Redis container of every pod. -/
structure ContainerSettings where
  image : String := ""
  imagePullPolicy : Option String := none
  resources : Option ResourceBounds := none
deriving DecidableEq, Inhabited

namespace ContainerSettings

def toJson (c : ContainerSettings) : Json :=
  object [
    ("image", some (.str c.image)),
    ("imagePullPolicy", c.imagePullPolicy.map .str),
    ("resources", c.resources.map (·.toJson))]

def format : Format ContainerSettings :=
  .declared "ContainerSettings" <| ContainerSettings.mk
    <$> .required "image" .text
    <*> .optional "imagePullPolicy" .text
    <*> .optional "resources" ResourceBounds.format

end ContainerSettings

/-- What the claim of each pod asks for. -/
structure ClaimTemplate where
  size : String := "1Gi"
  storageClassName : Option String := none
  /-- Empty stands for a claim that one node may write to. -/
  accessModes : List String := []
deriving DecidableEq, Inhabited

namespace ClaimTemplate

def toJson (t : ClaimTemplate) : Json :=
  object [
    ("accessModes", some (strings t.accessModes)),
    ("size", some (.str t.size)),
    ("storageClassName", t.storageClassName.map .str)]

def format : Format ClaimTemplate :=
  .declared "ClaimTemplate" <| ClaimTemplate.mk
    <$> .defaulted "size" "1Gi" .text
    <*> .optional "storageClassName" .text
    <*> .defaulted "accessModes" [] (.list .text)

end ClaimTemplate

/-- Lasting storage for the data directory. -/
structure Storage where
  claimTemplate : ClaimTemplate := {}
deriving DecidableEq, Inhabited

namespace Storage

def toJson (s : Storage) : Json :=
  object [("volumeClaimTemplate", some s.claimTemplate.toJson)]

def format : Format Storage :=
  .declared "Storage" <| Storage.mk
    <$> .required "volumeClaimTemplate" ClaimTemplate.format

end Storage

/-- The configuration a user adds to the operator's own. -/
structure ExtraConfig where
  /-- The name of the ConfigMap that holds it. -/
  configMap : Option String := none
deriving DecidableEq, Inhabited

namespace ExtraConfig

def toJson (c : ExtraConfig) : Json :=
  object [("additionalRedisConfig", c.configMap.map .str)]

def format : Format ExtraConfig :=
  .declared "ExtraConfig" <| ExtraConfig.mk
    <$> .optional "additionalRedisConfig" .text

end ExtraConfig
end RedisKeeper
