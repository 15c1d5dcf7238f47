import ConstantResolution.Binary64.Basic
import ConstantResolution.Rounding

/-! # Rounded arithmetic

The number nearest to a quotient of naturals, ties to even, and with it products and quotients of
finite numbers.  A quotient that is too large becomes infinite. -/

namespace ConstantResolution.Binary64

/-- The power of two of the last place of the number nearest to `num / den`: fifty-three binary
digits are kept, fewer below the least normal number. -/
def lastPlace (num den : Nat) : Int :=
  let guess := (num.log2 : Int) - den.log2 - 52
  let exact :=
    if num * Nat.pow 2 (-guess).toNat < den * Nat.pow 2 guess.toNat * hiddenBit then guess - 1
    else guess
  max exact (-1074)

/-- The significand of the number nearest to `num / den`, when its last place is `q`. -/
def roundedSignificand (num den : Nat) (q : Int) : Nat :=
  roundDiv .toEven (num * Nat.pow 2 (-q).toNat) (den * Nat.pow 2 q.toNat)

/-- The magnitude with last place `q` and significand `m`.  A significand of fifty-four digits,
which rounding up can give, carries into the exponent of itself. -/
def packed (m : Nat) (q : Int) : Nat :=
  if m < hiddenBit then m else min infinite ((q + 1075).toNat * hiddenBit + (m - hiddenBit))

/-- **The number nearest to `num / den`**, ties to even. -/
def ofQuotient (negative : Bool) (num den : Nat) : Binary64 :=
  if num = 0 then ofMagnitude negative 0
  else
    let q := lastPlace num den
    ofMagnitude negative (packed (roundedSignificand num den q) q)

/-- The number nearest to a natural. -/
def ofNat (n : Nat) : Binary64 := ofQuotient false n 1

/-- The product of two finite numbers. -/
def mul (x y : Binary64) : Binary64 :=
  ofQuotient (x.isNegative != y.isNegative) (x.numerator * y.numerator)
    (x.denominator * y.denominator)

/-- The quotient of two finite numbers, of which the second is not zero. -/
def div (x y : Binary64) : Binary64 :=
  ofQuotient (x.isNegative != y.isNegative) (x.numerator * y.denominator)
    (x.denominator * y.numerator)

/-- The number nearest to the sum of the magnitudes of finite numbers. -/
def sumMagnitudes (xs : List Binary64) : Binary64 :=
  let add := fun (n, d) (x : Binary64) =>
    (n * x.denominator + x.numerator * d, d * x.denominator)
  let total := xs.foldl add (0, 1)
  ofQuotient false total.1 total.2

end ConstantResolution.Binary64
