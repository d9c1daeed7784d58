import RedisKeeper.Decimal.Scaled

/-
The shortest decimal digits of a binary floating-point number.

All reals in an interval around a number round to it, and so do its ends if the
mantissa is even.  Of the decimal numbers in the interval those with the fewest
digits count, and of these the nearest.
-/
namespace RedisKeeper
namespace Decimal

/-- A quotient of two natural numbers with the interval of quotients around it, all
with one denominator. -/
structure Span where
  low : Nat
  value : Nat
  high : Nat
  denominator : Nat
  /-- Whether the ends count. -/
  closed : Bool

namespace Span

/-- Whether a quotient with the same denominator lies in the interval. -/
def contains (s : Span) (n : Nat) : Bool :=
  if s.closed then s.low ≤ n && n ≤ s.high else s.low < n && n < s.high

/-- The interval of a number other than zero.  The next number below a power of two
is only half as far away, unless it is the least power with a full mantissa. -/
def ofBinary (b : Binary) : Span :=
  let halfBelow := b.mantissa = Nat.pow 2 52 && -1074 < b.exponent
  let up := Nat.pow 2 b.exponent.toNat
  { low := (4 * b.mantissa - if halfBelow then 1 else 2) * up
    value := 4 * b.mantissa * up
    high := (4 * b.mantissa + 2) * up
    denominator := 4 * Nat.pow 2 (-b.exponent).toNat
    closed := b.mantissa % 2 = 0 }

/-- The digits in front of the decimal point, negative if zeros follow it. -/
def places (s : Span) : Int :=
  let whole := s.value / s.denominator
  if 0 < whole then (Nat.toDigits 10 whole).length
  else 1 - (Nat.toDigits 10 (s.denominator / s.value)).length

/-- The interval times a number. -/
def scaled (s : Span) (factor : Nat) : Span :=
  { s with low := s.low * factor, value := s.value * factor, high := s.high * factor }

/-- The multiple of a unit that lies in the interval and is nearest to the value.  Halfway
between two multiples the even one is preferred. -/
def multiple? (s : Span) (unit : Nat) : Option Nat :=
  let below := s.value / unit
  let rest := 2 * (s.value % unit)
  let nearest := if rest < unit || rest = unit && below % 2 = 0 then below else below + 1
  [nearest, below, below + 1].find? fun n => s.contains (n * unit)

/-- The number of the interval with so many units of a power of ten, and nearest to
the value. -/
def onGrid? (s : Span) (power : Int) : Option Nat :=
  (s.scaled (Nat.pow 10 (-power).toNat)).multiple? (Nat.pow 10 power.toNat * s.denominator)

theorem contains_of_multiple? {s : Span} {unit n : Nat} (h : s.multiple? unit = some n) :
    s.contains (n * unit) = true := by
  have hit := List.find?_some h
  exact hit

/-- What stands on the grid rounds to the number that the interval is around. -/
theorem contains_of_onGrid? {s : Span} {power : Int} {n : Nat} (h : s.onGrid? power = some n) :
    (s.scaled (Nat.pow 10 (-power).toNat)).contains
      (n * (Nat.pow 10 power.toNat * s.denominator)) = true :=
  contains_of_multiple? h

end Span

/-- Digits without the zeros at their end. -/
def Parts.stripped (p : Parts) : Nat → Parts
  | 0 => p
  | fuel + 1 =>
    if p.digits ≠ 0 ∧ p.digits % 10 = 0 then
      Parts.stripped ⟨p.digits / 10, p.exponent + 1⟩ fuel
    else p

/-- The shortest digits of a number.  Seventeen are always enough. -/
def Binary.shortest (b : Binary) : Parts :=
  if b.mantissa = 0 then ⟨0, 0⟩
  else
    let span := Span.ofBinary b
    let hit := (List.range 17).findSome? fun (more : Nat) =>
      let power := span.places - 1 - more
      ((span.onGrid? power).filter (0 < ·)).map fun digits => (⟨digits, power⟩ : Parts)
    (hit.getD b.toDecimal).stripped 20

end Decimal
end RedisKeeper
