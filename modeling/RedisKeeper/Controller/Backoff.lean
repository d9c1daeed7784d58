/-
How long to wait after failures: 800 milliseconds, and twice as long after each
further failure in a row, up to half a minute.

A row of failures ends with a success, and also when more than two minutes have
passed since the last wait began.
-/
namespace RedisKeeper
namespace Controller

structure Backoff where
  /-- Failures in a row. -/
  failures : Nat := 0
  /-- The millisecond at which the last wait began. -/
  began : Option Nat := none
deriving DecidableEq, Inhabited

namespace Backoff

/-- The milliseconds to wait after a number of failures in a row. -/
def delay (failures : Nat) : Nat := min (800 * Nat.pow 2 failures) 30000

/-- The moment up to which to wait after a failure. -/
def failed (b : Backoff) (now : Nat) : Nat × Backoff :=
  let failures := if b.began.any fun t => 120000 < now - t then 0 else b.failures
  (now + delay failures, ⟨failures + 1, some now⟩)

def succeeded (b : Backoff) : Backoff := { b with failures := 0 }

theorem delay_le (failures : Nat) : delay failures ≤ 30000 := Nat.min_le_right _ _

end Backoff
end Controller
end RedisKeeper
