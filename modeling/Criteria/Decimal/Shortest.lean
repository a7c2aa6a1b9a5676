/-!
# The fewest digits that read back

A positive binary number `m * 2 ^ q` owns the interval of reals that round to it. Of the decimal
numbers in that interval the shortest is taken: the first of the grids with one, two, up to
seventeen significant digits on which the number's lower or upper neighbour lies in the interval.
Of two hits the nearer is taken, and of two equally near the one with the even last digit. All
arithmetic is exact.
-/

namespace Criteria.Decimal

/-- A positive binary number `significand * 2 ^ exponent`. -/
structure Binary where
  /-- The significand. -/
  significand : Nat
  /-- The exponent of two. -/
  exponent : Int
  /-- Whether the number below is only half as far away as the number above. -/
  narrowBelow : Bool
  deriving DecidableEq, Repr

/-- A decimal number `digits * 10 ^ exponent`. -/
structure Scaled where
  /-- The digits as a natural number. -/
  digits : Nat
  /-- The exponent of ten. -/
  exponent : Int
  deriving DecidableEq, Repr

/-- Read a finite positive number off the bits of its binary64 form. -/
def Binary.ofBits (bits : UInt64) : Binary :=
  let fraction : Nat := bits.toNat % Nat.pow 2 52
  let biased : Nat := bits.toNat / Nat.pow 2 52 % Nat.pow 2 11
  if biased = 0 then ⟨fraction, -1074, false⟩
  else ⟨fraction + Nat.pow 2 52, Int.ofNat biased - 1075, fraction = 0 && 1 < biased⟩

/-- The power of a base with an integer exponent, as numerator and denominator. -/
def ratioPow (base : Nat) (exponent : Int) : Nat × Nat :=
  if 0 ≤ exponent then (base.pow exponent.toNat, 1) else (1, base.pow (-exponent).toNat)

/-- Count how often a fraction below one has to be multiplied by ten to reach one. -/
def leadingZeros (num den : Nat) : Nat → Nat
  | 0 => 0
  | steps + 1 => if den ≤ num then 0 else leadingZeros (num * 10) den steps + 1

/-- The number of digits before the point. For a number below one it is minus the number of
zeros behind the point, so `10 ^ (magnitude - 1)` is always the largest power of ten that does
not exceed the number. -/
def magnitude (num den : Nat) : Int :=
  if den ≤ num then ((Nat.toDigits 10 (num / den)).length : Int)
  else 1 - (leadingZeros num den 400 : Int)

/-- Tell whether a decimal number rounds to a binary one. The ends of the interval belong to it
exactly when the significand is even. -/
def Binary.owns (b : Binary) (d : Scaled) : Bool :=
  let (twoNum, twoDen) := ratioPow 2 (b.exponent - 2)
  let (tenNum, tenDen) := ratioPow 10 d.exponent
  let value := d.digits * tenNum * twoDen
  let unit := twoNum * tenDen
  let low := (4 * b.significand - if b.narrowBelow then 1 else 2) * unit
  let high := (4 * b.significand + 2) * unit
  if b.significand % 2 = 0 then low ≤ value && value ≤ high else low < value && value < high

/-- Take the zeros off the end of the digits. -/
def Scaled.strip (d : Scaled) : Nat → Scaled
  | 0 => d
  | steps + 1 =>
    if d.digits % 10 = 0 then Scaled.strip ⟨d.digits / 10, d.exponent + 1⟩ steps else d

/-- The better of the number's two neighbours on the grid of a power of ten, if one of them
rounds to the number. -/
def Binary.onGrid? (b : Binary) (num den : Nat) (exponent : Int) : Option Scaled :=
  let (tenNum, tenDen) := ratioPow 10 exponent
  let below := num * tenDen / (den * tenNum)
  let rest := num * tenDen % (den * tenNum)
  let lower : Scaled := ⟨below, exponent⟩
  let upper : Scaled := ⟨below + 1, exponent⟩
  match b.owns lower, b.owns upper with
  | true, true =>
    if 2 * rest < den * tenNum then some lower
    else if den * tenNum < 2 * rest then some upper
    else if below % 2 = 0 then some lower else some upper
  | true, false => some lower
  | false, true => some upper
  | false, false => none

/-- Try the grids with more and more digits. -/
def Binary.firstHit (b : Binary) (num den : Nat) (size : Int) : Nat → Nat → Scaled
  | 0, _ => ⟨num / den, 0⟩
  | steps + 1, digits =>
    match b.onGrid? num den (size - digits) with
    | some d => d
    | none => b.firstHit num den size steps (digits + 1)

/-- The shortest decimal number that rounds to a positive binary number. -/
def Binary.shortest (b : Binary) : Scaled :=
  let (twoNum, den) := ratioPow 2 b.exponent
  let num := b.significand * twoNum
  (b.firstHit num den (magnitude num den) 17 1).strip 17

example : (Binary.ofBits 0x3fb999999999999a).shortest = ⟨1, -1⟩ := by decide +kernel

example : (Binary.ofBits 1).shortest = ⟨5, -324⟩ := by decide +kernel

example : (Binary.ofBits 0x7fefffffffffffff).shortest = ⟨17976931348623157, 292⟩ := by
  decide +kernel

end Criteria.Decimal
