import RedisKeeper.Decimal.Shortest

/-
Decimal numbers read as doubles.

Digits are taken in order as long as the number they make fits a 64-bit word, and
those behind them only move the decimal point.  The word is rounded to a double
and multiplied or divided by the double next to a power of ten, which rounds once
more.  So the result may be a neighbour of the nearest double, and a number close
to the greatest double may count as too large.
-/
namespace RedisKeeper
namespace Decimal

/-- The quotient of two natural numbers rounded to an integer, halfway between two
of them to the even one. -/
def roundQuotient (n d : Nat) : Nat :=
  let below := n / d
  let rest := 2 * (n % d)
  if rest < d ∨ rest = d ∧ below % 2 = 0 then below else below + 1

namespace Binary

def zero : Binary := ⟨0, -1074⟩

/-- The double next to a quotient of positive numbers.  Below the least normal
double the mantissas are shorter. -/
def nearest (n d : Nat) : Binary :=
  let size : Int := n.log2 - d.log2
  let whole := d * Nat.pow 2 size.toNat ≤ n * Nat.pow 2 (-size).toNat
  let exponent : Int := max (-1074) (if whole then size - 52 else size - 53)
  let mantissa :=
    roundQuotient (n * Nat.pow 2 (-exponent).toNat) (d * Nat.pow 2 exponent.toNat)
  if mantissa = Nat.pow 2 53 then ⟨Nat.pow 2 52, exponent + 1⟩ else ⟨mantissa, exponent⟩

/-- The numerator of a number that is written as a quotient. -/
def numerator (b : Binary) : Nat := b.mantissa * Nat.pow 2 b.exponent.toNat

/-- The denominator of a number that is written as a quotient. -/
def denominator (b : Binary) : Nat := Nat.pow 2 (-b.exponent).toNat

/-- Whether the exponent is greater than that of any double. -/
def isInfinite (b : Binary) : Bool := 971 < b.exponent

/-- The double next to a power of ten. -/
def tenTo (power : Nat) : Binary := nearest (Nat.pow 10 power) 1

/-- The product with a power of ten, up to the greatest that is a double. -/
def scaleUp (b : Binary) (power : Nat) : Binary :=
  nearest (b.numerator * (tenTo power).numerator) (b.denominator * (tenTo power).denominator)

/-- The quotient by a power of ten.  A number that is gone to zero stays there. -/
def scaleDown (b : Binary) (power : Nat) : Binary :=
  if b.mantissa = 0 then zero
  else
    nearest (b.numerator * (tenTo power).denominator) (b.denominator * (tenTo power).numerator)

end Binary

/-- The greatest power of ten that is a double. -/
def greatestPower : Nat := 308

/-- The number that digits make behind a number, as far as it fits a word, and
the digits that do not. -/
def takeWord (number : Nat) : List Char → Nat × List Char
  | [] => (number, [])
  | c :: digits =>
    let next := number * 10 + (c.toNat - '0'.toNat)
    if next < Nat.pow 2 64 then takeWord next digits else (number, c :: digits)

/-- The double that a word times a power of ten is taken for, if it is not too
large.  A power too small for a double is divided by in two steps, and one that is
smaller than their product leaves nothing. -/
def scaled? (word : Nat) (power : Int) : Option Binary :=
  if word = 0 then some Binary.zero
  else if 0 ≤ power then
    if greatestPower < power then none
    else
      let b := (Binary.nearest word 1).scaleUp power.toNat
      if b.isInfinite then none else some b
  else
    let first := min (-power).toNat greatestPower
    let second := min ((-power).toNat - first) greatestPower
    some (((Binary.nearest word 1).scaleDown first).scaleDown second)

/-- The number that is given by the digits of its whole part, those of its
fraction and a power of ten, unless it is too large.  It is given by the shortest
digits. -/
def read? (whole fraction : List Char) (exponent : Int) : Option Parts :=
  let (leading, left) := takeWord 0 whole
  let (word, ignored) := takeWord leading fraction
  (scaled? word (exponent + left.length + ignored.length - fraction.length)).map
    Binary.shortest

end Decimal
end RedisKeeper
