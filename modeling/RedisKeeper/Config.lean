import RedisKeeper.Text.Blank

/-
The operator's settings, from environment variables.

A variable that is blank counts as not set.
-/
namespace RedisKeeper

structure Config where
  /-- The only namespace to look after, if not all of them. -/
  watchNamespace : Option String := none
  podName : String := "unknown"
  podNamespace : String := "default"
  healthPort : UInt16 := 8080
  /-- The program that forms clusters, run inside pods. -/
  clusterTool : String := "redis-cli"
deriving DecidableEq, Inhabited

namespace Config

/-- A decimal number below 2 to the power 16, with a plus sign or without. -/
def word16? (s : List Char) : Option Nat :=
  let digits := match s with
    | '+' :: rest => rest
    | s => s
  if digits.isEmpty ∨ !digits.all Char.isDigit then none
  else
    let n := digits.foldl (fun acc c => acc * 10 + (c.toNat - '0'.toNat)) 0
    if n < 0x10000 then some n else none

/-- The TCP port that a text gives, or the usual one if it gives none. -/
def tcpPort (text : Option String) : UInt16 :=
  match text.bind fun s => word16? (Text.trim s.toList) with
  | some n => if n = 0 then 8080 else n.toUInt16
  | none => 8080

/-- The settings for the values that variables have, on a host. -/
def ofVariables (hostname : String) (lookup : String → Option String) : Config :=
  let get (key : String) := (lookup key).filter fun value => !Text.blank value.toList
  { watchNamespace := get "WATCH_NAMESPACE"
    podName := (get "POD_NAME").getD hostname
    podNamespace := (get "POD_NAMESPACE").getD "default"
    healthPort := tcpPort (get "HEALTH_PORT")
    clusterTool := (get "CLUSTER_TOOL").getD "redis-cli" }

end Config
end RedisKeeper
