/-
Decimal digits of a binary floating-point number, in 64-bit arithmetic.

A finite positive number is `mantissa * 2 ^ exponent`, and all reals in an
interval around it round to it.  The number and the ends of the interval are
scaled by a power of ten to a moderate size.  That power is known to 64 bits
only, so the interval is narrowed by one unit at both ends.  Digits are taken
from its upper end until what is left out is smaller than the interval, and the
last digit is then moved towards the number.  The result reads back as the
number, and is nearly always the shortest text that does.
-/
namespace RedisKeeper
namespace Decimal

/-- The number `digits * 10 ^ exponent`. -/
structure Parts where
  digits : Nat
  exponent : Int
deriving DecidableEq, Inhabited

/-- The number `mantissa * 2 ^ exponent`. -/
structure Binary where
  mantissa : Nat
  exponent : Int
deriving DecidableEq, Inhabited

namespace Binary

/-- The size of a finite number, from its bits. -/
def ofBits (bits : Nat) : Binary :=
  let fraction : Nat := bits % Nat.pow 2 52
  let power : Nat := bits / Nat.pow 2 52 % Nat.pow 2 11
  if power = 0 then ⟨fraction, -1074⟩ else ⟨fraction + Nat.pow 2 52, (power : Int) - 1075⟩

/-- The same number with another exponent, which must not be greater. -/
def withExponent (b : Binary) (exponent : Int) : Binary :=
  ⟨b.mantissa * Nat.pow 2 (b.exponent - exponent).toNat, exponent⟩

/-- The same number with a mantissa of 64 bits. -/
def normal (b : Binary) : Binary := b.withExponent (b.exponent - (63 - b.mantissa.log2))

/-- The lower end of the interval.  The next number below a power of two is only
half as far away. -/
def low (b : Binary) : Binary :=
  if b.mantissa = Nat.pow 2 52 then ⟨4 * b.mantissa - 1, b.exponent - 2⟩
  else ⟨2 * b.mantissa - 1, b.exponent - 1⟩

/-- The upper end of the interval. -/
def high (b : Binary) : Binary := ⟨2 * b.mantissa + 1, b.exponent - 1⟩

/-- The product of two numbers with mantissas of 64 bits, to 64 bits. -/
def times (a b : Binary) : Binary :=
  ⟨(a.mantissa * b.mantissa + Nat.pow 2 63) / Nat.pow 2 64, a.exponent + b.exponent + 64⟩

/-- The quotient of two natural numbers to 64 bits, half a unit going up. -/
def ofRatio (n d : Nat) : Binary :=
  let shift : Int := 64 + d.log2 - n.log2
  let size := n * Nat.pow 2 shift.toNat / (d * Nat.pow 2 (-shift).toNat)
  let shift := if size < Nat.pow 2 64 then shift else shift - 1
  let unit := d * Nat.pow 2 (-shift).toNat
  ⟨(2 * (n * Nat.pow 2 shift.toNat) + unit) / (2 * unit), -shift⟩

/-- A power of ten to 64 bits. -/
def powerOfTen (power : Int) : Binary :=
  ofRatio (Nat.pow 10 power.toNat) (Nat.pow 10 (-power).toNat)

/-- The power of ten that scales numbers with 64 bits and some exponent so that
the integer part is small and the fraction fits.  Only each eighth power
occurs. -/
def scale (exponent : Int) : Int :=
  let steps := -((61 + exponent) * 30102999566398114).fdiv 100000000000000000 + 347
  8 * (steps / 8 + 1) - 348

end Binary

/-! ## Digits -/

/-- Moves the last digit down, by at most nine, while that brings it closer to a
target.  What is left of the number below the digits is `rest`, it must stay
within `width`, and one step of the last digit is `unit`. -/
def settle (width target unit : Nat) : Nat → Nat → Nat → Nat
  | 0, _, digits => digits
  | fuel + 1, rest, digits =>
    if rest < target ∧ unit ≤ width - rest ∧
        (rest + unit < target ∨ rest + unit - target < target - rest) then
      settle width target unit fuel (rest + unit) (digits - 1)
    else digits

/-- Digits of a fraction of `one` behind digits of the whole part.  Behind the
eighth of them the target is given up. -/
def fractionDigits (one target : Nat) (scale : Int) : Nat → Nat → Nat → Nat → Nat → Parts
  | 0, places, _, _, digits => ⟨digits, -scale - places⟩
  | fuel + 1, places, width, fraction, digits =>
    let places := places + 1
    let width := width * 10
    let digits := digits * 10 + fraction * 10 / one
    let fraction := fraction * 10 % one
    if fraction < width then
      let target := if places < 9 then target * Nat.pow 10 places else 0
      ⟨settle width target one 9 fraction digits, -scale - places⟩
    else fractionDigits one target scale fuel places width fraction digits

/-- Digits of a whole number and a fraction of `one`, with a number of digits of
the whole part still to be written. -/
def wholeDigits (one target : Nat) (scale : Int) (width fraction : Nat) :
    Nat → Nat → Nat → Parts
  | 0, _, digits => fractionDigits one target scale 20 0 width fraction digits
  | count + 1, whole, digits =>
    let unit := Nat.pow 10 count
    let digits := digits * 10 + whole / unit
    let whole := whole % unit
    let rest := whole * one + fraction
    if rest ≤ width then
      ⟨settle width target (unit * one) 9 rest digits, -scale + count⟩
    else wholeDigits one target scale width fraction count whole digits

/-- Digits for a number other than zero. -/
def Binary.toDecimal (b : Binary) : Parts :=
  let high := b.high.normal
  let scale := Binary.scale high.exponent
  let power := Binary.powerOfTen scale
  let top := (high.times power).mantissa - 1
  let bottom := ((b.low.withExponent high.exponent).times power).mantissa + 1
  let value := (b.normal.times power).mantissa
  let one := Nat.pow 2 (-(high.exponent + power.exponent + 64)).toNat
  let whole := top / one
  wholeDigits one (top - value) scale (top - bottom) (top % one)
    (Nat.toDigits 10 whole).length whole 0

/-- Where a number's decimal point may stand for the number to be written without
an exponent. -/
structure Layout where
  /-- The point stands behind more than so many digits. -/
  above : Int
  /-- The point stands behind at most so many digits. -/
  upTo : Int
deriving DecidableEq, Inhabited

def zeros (n : Int) : List Char := List.replicate n.toNat '0'

/-- Digits with a point at a place, or with an exponent.  A number without a
fraction keeps a zero behind its point; an exponent has no plus sign. -/
def Parts.text (p : Parts) (layout : Layout) : List Char :=
  let digits := Nat.toDigits 10 p.digits
  let place : Int := digits.length + p.exponent
  if layout.above < place ∧ place ≤ layout.upTo then
    if 0 ≤ p.exponent then digits ++ zeros p.exponent ++ ['.', '0']
    else if 0 < place then digits.take place.toNat ++ '.' :: digits.drop place.toNat
    else '0' :: '.' :: zeros (-place) ++ digits
  else
    let power := (toString (place - 1)).toList
    match digits with
    | [d] => d :: 'e' :: power
    | d :: more => d :: '.' :: more ++ 'e' :: power
    | [] => []

/-- The text of a floating-point number. -/
def floatText (f : Float) (layout : Layout) : String :=
  if f.isNaN then "NaN"
  else
    let sign := if f.toBits ≥ 0x8000000000000000 then ['-'] else []
    let b := Binary.ofBits f.toBits.toNat
    let size :=
      if f.isInf then ['i', 'n', 'f']
      else if b.mantissa = 0 then ['0', '.', '0']
      else b.toDecimal.text layout
    String.ofList (sign ++ size)

end Decimal
end RedisKeeper
