import ConstantResolution.Decimal.Shortest

/-! # Decimals as text

A numeral is a number as it is written: digits before and behind the point, and an exponent.  A
layout is the few decisions that lead from a number to its numeral: which leading exponents are
written positionally, whether a whole number keeps its point, how an exponent is signed, and which
of two equally near decimals is taken. -/

namespace ConstantResolution.Decimal

/-! ### Numerals -/

/-- Decimal digits, most significant first. -/
def digitChars (n : Nat) : List Char := Nat.toDigits 10 n

def zeros (n : Nat) : List Char := List.replicate n '0'

/-- The sign that an exponent is written with. -/
inductive ExponentSign where
  | none
  | plus
  | minus
deriving DecidableEq

/-- The exponent of a numeral: a sign and digits. -/
structure ExponentPart where
  sign : ExponentSign
  digits : List Char
deriving DecidableEq

/-- A number as it is written.  Without digits behind the point there is no point. -/
structure Numeral where
  negative : Bool
  whole : List Char
  fraction : List Char := []
  exponent : Option ExponentPart := none
deriving DecidableEq

def ExponentSign.text : ExponentSign → List Char
  | .none => []
  | .plus => ['+']
  | .minus => ['-']

def ExponentPart.text (e : ExponentPart) : List Char := 'e' :: e.sign.text ++ e.digits

/-- The characters of a numeral. -/
def Numeral.text (n : Numeral) : List Char :=
  (if n.negative then ['-'] else []) ++ n.whole ++
    (if n.fraction.isEmpty then [] else '.' :: n.fraction) ++
    (match n.exponent with
      | none => []
      | some e => e.text)

/-- A natural, by its digits. -/
def Numeral.ofNat (n : Nat) : Numeral := { negative := false, whole := digitChars n }

/-! ### Layouts -/

/-- The decisions of a format. -/
structure Layout where
  /-- Whether a number whose leading digit stands at this power of ten is written positionally. -/
  positional : Int → Bool
  /-- Whether a whole number ends in `.0`. -/
  keepsPoint : Bool
  /-- Whether an exponent that is not negative has a plus sign. -/
  plusSign : Bool
  tie : Tie

/-- Digits with the point after the first `point` of them, filled up with zeros on either side. -/
def Numeral.positional (keepsPoint negative : Bool) (ds : List Char) (point : Int) : Numeral :=
  if point ≤ 0 then
    { negative, whole := ['0'], fraction := zeros (-point).toNat ++ ds }
  else if ds.length ≤ point.toNat then
    { negative, whole := ds ++ zeros (point.toNat - ds.length),
      fraction := if keepsPoint then ['0'] else [] }
  else { negative, whole := ds.take point.toNat, fraction := ds.drop point.toNat }

/-- One digit, the rest behind a point, and the exponent of the first. -/
def Numeral.scientific (plusSign negative : Bool) (ds : List Char) (exponent : Int) : Numeral :=
  { negative, whole := ds.take 1, fraction := ds.drop 1,
    exponent := some
      { sign := if exponent < 0 then .minus else if plusSign then .plus else .none
        digits := digitChars exponent.natAbs } }

/-- A decimal in a format. -/
def Layout.ofDecimal (f : Layout) (negative : Bool) (d : Decimal) : Numeral :=
  let ds := digitChars d.digits
  if f.positional d.leading then .positional f.keepsPoint negative ds (d.exponent + ds.length)
  else .scientific f.plusSign negative ds d.leading

/-- **A finite number in a format.**  The sign of a zero is written too. -/
def Layout.numeral (f : Layout) (x : Binary64) : Numeral :=
  f.ofDecimal x.isNegative (shortest f.tie x)

/-- Every digit in its place, however far from the point. -/
def plain : Layout where
  positional := fun _ => true
  keepsPoint := false
  plusSign := false
  tie := .up

/-! ### A fixed number of places

The exact value of a number, rounded to a given number of decimal places, ties to even. -/

/-- The magnitude in units of the last place. -/
def fixedUnits (places : Nat) (x : Binary64) : Nat :=
  roundDiv .toEven (x.numerator * Nat.pow 10 places) x.denominator

/-- Digits with a point before the last `places` of them, and at least one digit in front of it. -/
def withPlaces (places : Nat) (n : Nat) : List Char :=
  let ds := digitChars n
  let ds := zeros (places + 1 - ds.length) ++ ds
  let whole := ds.length - places
  if places = 0 then ds else ds.take whole ++ ['.'] ++ ds.drop whole

/-- **A number to a fixed number of places.**  The sign is written also when nothing but zeros is
left, and what is not finite has a name. -/
def fixed (places : Nat) (x : Binary64) : String :=
  if x.isNaN then "NaN"
  else
    let sign := if x.isNegative then ['-'] else []
    String.ofList (sign ++ if x.isInfinite then ['i', 'n', 'f']
      else withPlaces places (fixedUnits places x))

end ConstantResolution.Decimal
