import ConstantResolution.Json.Basic
import ConstantResolution.Binary64.Arithmetic

/-! # Numbers of JSON

What a numeral stands for: a counter, when it is written as a natural that fits one, and a floating
point number.  The latter is read through an integer of 64 bits and one power of ten, each of them
rounded on its own: digits that no longer fit the integer are left out.  So the result is near the
exact value, not always nearest to it. -/

namespace ConstantResolution.Json

/-- The value of a digit. -/
def digitValue (c : Char) : Nat := c.toNat - '0'.toNat

/-- The value of a row of digits. -/
def digitsValue (ds : List Char) : Nat := ds.foldl (fun n c => 10 * n + digitValue c) 0

/-- Appends digits to an integer as long as it stays below 2⁶⁴.  Returns it with the number of
digits that were not taken. -/
def appendDigits : Nat → List Char → Nat × Nat
  | n, [] => (n, 0)
  | n, c :: cs =>
    if 10 * n + digitValue c < UInt64.size then appendDigits (10 * n + digitValue c) cs
    else (n, cs.length + 1)

/-- The integer and the power of ten that a numeral is read through, its exponent aside. -/
def significandOf (n : Decimal.Numeral) : Nat × Int :=
  let (whole, skipped) := appendDigits 0 n.whole
  let (all, left) := appendDigits whole n.fraction
  (all, (skipped : Int) - (n.fraction.length - left : Nat))

/-- The value of the exponent of a numeral. -/
def exponentOf (n : Decimal.Numeral) : Int :=
  match n.exponent with
  | none => 0
  | some e => if e.sign = .minus then -(digitsValue e.digits : Int) else digitsValue e.digits

/-- The greatest power of ten that is taken in one step. -/
def greatestPower : Nat := 308

/-- A number times a power of ten; `none` when it is out of range.  A power below the least one is
taken in several steps, until nothing is left of the number. -/
def timesPowerOfTen : Nat → Binary64 → Int → Option Binary64
  | rounds, f, e =>
    if e.natAbs ≤ greatestPower then
      if 0 ≤ e then
        let product := f.mul (.ofNat (Nat.pow 10 e.natAbs))
        if product.isInfinite then none else some product
      else some (f.div (.ofNat (Nat.pow 10 e.natAbs)))
    else if f.isZero then some f
    else if 0 ≤ e then none
    else
      match rounds with
      | 0 => some f
      | rounds + 1 =>
        timesPowerOfTen rounds (f.div (.ofNat (Nat.pow 10 greatestPower))) (e + greatestPower)

/-- **The floating point number that a numeral stands for**, unless it is too large. -/
def number? (n : Decimal.Numeral) : Option Binary64 :=
  let (significand, power) := significandOf n
  let e := power + exponentOf n
  (timesPowerOfTen (e.natAbs / greatestPower + 1) (.ofNat significand) e).map fun f =>
    if n.negative then f.neg else f

/-- **The counter that a numeral stands for.**  It is written without sign, point and exponent. -/
def counter? (n : Decimal.Numeral) : Option UInt64 :=
  if n.negative || !n.fraction.isEmpty || n.exponent.isSome then none
  else if digitsValue n.whole < UInt64.size then some (.ofNat (digitsValue n.whole)) else none

end ConstantResolution.Json
