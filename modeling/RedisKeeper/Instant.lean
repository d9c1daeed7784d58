/-
A reading of the clock.
-/
namespace RedisKeeper

structure Instant where
  /-- The moment as an RFC 3339 text. -/
  text : String
  /-- Whole seconds since the start of 1970. -/
  epoch : Nat
  /-- A text that tells the moment apart from any other. -/
  stamp : String
deriving DecidableEq, Inhabited

end RedisKeeper
