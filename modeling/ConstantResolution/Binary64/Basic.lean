/-! # Binary floating point numbers of 64 bits

A number is its bit pattern: a sign, eleven bits of exponent and fifty-two of fraction.  A finite
one stands for `significand * 2 ^ exponent`, with the sign in front.  Two patterns are told apart
by `=`; `Binary64.same` is the comparison of numbers, in which the two zeros agree and a NaN agrees
with nothing. -/

namespace ConstantResolution

/-- A floating point number, by its bits. -/
structure Binary64 where
  bits : UInt64
deriving DecidableEq, Inhabited

namespace Binary64

/-! ### Parts -/

/-- The bit pattern as a number. -/
def code (x : Binary64) : Nat := x.bits.toNat

/-- The place of the sign, 2⁶³. -/
def signBit : Nat := 0x8000000000000000

/-- The place above the fraction, 2⁵². -/
def hiddenBit : Nat := 0x10000000000000

/-- The bits below the sign: these order the magnitudes. -/
def magnitude (x : Binary64) : Nat := x.code % signBit

/-- The sign bit. -/
def isNegative (x : Binary64) : Bool := signBit ≤ x.code

/-- The magnitude of the infinities; beyond it are the NaNs. -/
def infinite : Nat := 0x7FF * hiddenBit

def isNaN (x : Binary64) : Bool := infinite < x.magnitude

def isInfinite (x : Binary64) : Bool := x.magnitude == infinite

def isFinite (x : Binary64) : Bool := x.magnitude < infinite

def isZero (x : Binary64) : Bool := x.magnitude == 0

/-- The eleven bits of the exponent. -/
def biased (x : Binary64) : Nat := x.magnitude / hiddenBit

/-- The fifty-two bits of the fraction. -/
def fraction (x : Binary64) : Nat := x.magnitude % hiddenBit

/-- The integer that is scaled: the fraction, with the hidden bit in front unless it is
subnormal. -/
def significand (x : Binary64) : Nat := if x.biased = 0 then x.fraction else hiddenBit + x.fraction

/-- The power of two that scales the significand. -/
def exponent (x : Binary64) : Int := if x.biased = 0 then -1074 else (x.biased : Int) - 1075

/-- The neighbour below is only half as far away as the neighbour above. -/
def isNarrowBelow (x : Binary64) : Bool := x.fraction == 0 && 1 < x.biased

/-- Equality of numbers: no NaN equals anything, and the zeros are one. -/
def same (x y : Binary64) : Bool := !x.isNaN && !y.isNaN && (x == y || (x.isZero && y.isZero))

/-! ### Construction -/

/-- The number with the given sign and magnitude. -/
def ofMagnitude (negative : Bool) (magnitude : Nat) : Binary64 :=
  ⟨UInt64.ofNat (if negative then signBit + magnitude else magnitude)⟩

def zero : Binary64 := ofMagnitude false 0

/-- The number with the other sign. -/
def neg (x : Binary64) : Binary64 := ofMagnitude (!x.isNegative) x.magnitude

/-! ### Fractions of naturals -/

/-- The numerator of a finite magnitude, over `denominator`. -/
def numerator (x : Binary64) : Nat := x.significand * Nat.pow 2 x.exponent.toNat

/-- A power of two; with `numerator` it gives the magnitude exactly. -/
def denominator (x : Binary64) : Nat := Nat.pow 2 (-x.exponent).toNat

theorem denominator_pos (x : Binary64) : 0 < x.denominator := Nat.two_pow_pos _

end Binary64
end ConstantResolution
