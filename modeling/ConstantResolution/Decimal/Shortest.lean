import ConstantResolution.Binary64.Basic
import ConstantResolution.Rounding

/-! # The shortest decimal of a number

Many decimals are read back as one binary number: those within half a step of it, the two ends
included when its significand is even.  Of these the printed one has the fewest digits, and of those
with as few it is the nearest.  Two that are equally near are told apart by a `Tie`. -/

namespace ConstantResolution

/-- The decimal `digits * 10 ^ exponent`. -/
structure Decimal where
  digits : Nat
  exponent : Int
deriving DecidableEq

namespace Decimal

/-- How many decimal digits a natural has; zero has one. -/
def length (n : Nat) : Nat := (Nat.toDigits 10 n).length

/-- The exponent of the leading digit. -/
def leading (d : Decimal) : Int := d.exponent + length d.digits - 1

/-- Moves up to `fuel` zeros from the end of the digits to the exponent. -/
def strip : Nat → Decimal → Decimal
  | 0, d => d
  | fuel + 1, d =>
    if d.digits ≠ 0 ∧ d.digits % 10 = 0 then strip fuel ⟨d.digits / 10, d.exponent + 1⟩ else d

/-- The values that are read back as one number, over one denominator: the number itself and the
ends of the interval, with the ends included or not. -/
structure Interval where
  low : Nat
  value : Nat
  high : Nat
  denominator : Nat
  closed : Bool

/-- The interval of a finite number, in quarters of its last place. -/
def interval (x : Binary64) : Interval :=
  let scale := Nat.pow 2 (x.exponent - 2).toNat
  { low := (4 * x.significand - if x.isNarrowBelow then 1 else 2) * scale
    value := 4 * x.significand * scale
    high := (4 * x.significand + 2) * scale
    denominator := Nat.pow 2 (2 - x.exponent).toNat
    closed := x.significand % 2 = 0 }

/-- The least `k` with `value < 10 ^ k`, for a value that is not zero. -/
def Interval.scale (i : Interval) : Int :=
  if i.denominator ≤ i.value then length (i.value / i.denominator)
  else 1 - (length (i.denominator / i.value) : Int)

/-- Whether the multiple `c` of `unit` lies in the interval, with all three over one denominator. -/
def Interval.holds (i : Interval) (factor unit c : Nat) : Bool :=
  if i.closed then i.low * factor ≤ c * unit && c * unit ≤ i.high * factor
  else i.low * factor < c * unit && c * unit < i.high * factor

/-- The decimal with last place `10 ^ place` in the interval that is nearest to the value, if there
is one: one of the two neighbours of the value in this grid. -/
def Interval.inGrid (i : Interval) (tie : Tie) (place : Int) : Option Decimal :=
  let unit := i.denominator * Nat.pow 10 place.toNat
  let factor := Nat.pow 10 (-place).toNat
  let below := i.value * factor / unit
  match i.holds factor unit below, i.holds factor unit (below + 1) with
  | true, true => some ⟨roundDiv tie (i.value * factor) unit, place⟩
  | true, false => some ⟨below, place⟩
  | false, true => some ⟨below + 1, place⟩
  | false, false => none

/-- The value itself, which is a decimal because its denominator is a power of two. -/
def Interval.exact (i : Interval) : Decimal :=
  ⟨i.value * Nat.pow 5 i.denominator.log2, -(i.denominator.log2 : Int)⟩

/-- **The shortest decimal that is read back as the magnitude of `x`.**  Seventeen digits are enough
for every number; the exact value stands behind them. -/
def shortest (tie : Tie) (x : Binary64) : Decimal :=
  if x.isZero then ⟨0, 0⟩
  else
    let i := interval x
    let found := (List.range 17).findSome? fun n => i.inGrid tie (i.scale - (n + 1 : Nat))
    strip 800 (found.getD i.exact)

end Decimal
end ConstantResolution
