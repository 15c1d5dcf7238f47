import ConstantResolution.Decimal.Layout
import ConstantResolution.Text.Forms

/-! # Values of constants

The values that a constant can be bound to.  A class or module is a value by its number: the value
does not hold the namespace itself. -/

namespace ConstantResolution

/-- The number of a namespace.  Numbers are given in order of creation from 1 on. -/
abbrev NamespaceId := Nat

/-- A value. -/
inductive Value where
  | nil
  | bool (b : Bool)
  | int (n : Int)
  | float (x : Binary64)
  | str (s : String)
  | sym (s : String)
  | ns (id : NamespaceId)
deriving DecidableEq, Inhabited

/-- A namespace as it is shown. -/
def NamespaceId.text (id : NamespaceId) : String := "#<namespace:" ++ toString id ++ ">"

namespace Value

/-- Equality inside the language: by kind and content, with numbers compared as numbers, so that a
NaN is not even equal to itself. -/
def same : Value → Value → Bool
  | .float x, .float y => x.same y
  | a, b => a == b

/-- The namespace that a value stands for. -/
def namespace? : Value → Option NamespaceId
  | .ns id => some id
  | _ => none

/-! ### Texts -/

/-- Whole numbers below this magnitude show one place. -/
def wholeBound : Nat := 1000000000000000

/-- A finite number is whole. -/
def isWhole (x : Binary64) : Bool := x.numerator % x.denominator == 0

/-- A number: one place when it is whole and not too large, else its shortest digits. -/
def floatText (x : Binary64) : String :=
  if x.isNaN then "NaN"
  else if x.isInfinite then if x.isNegative then "-Infinity" else "Infinity"
  else if isWhole x && x.numerator < wholeBound * x.denominator then Decimal.fixed 1 x
  else String.ofList ((Decimal.plain.numeral x).text)

/-- **A value as it is shown to the user.** -/
def text : Value → String
  | .nil => "nil"
  | .bool b => toString b
  | .int n => toString n
  | .float x => floatText x
  | .str s => s
  | .sym s => ":" ++ s
  | .ns id => id.text

/-- The format of numbers in descriptions: positional from 10⁻⁴ up to 10¹⁶. -/
def described : Decimal.Layout where
  positional := fun e => -4 ≤ e && e < 16
  keepsPoint := true
  plusSign := false
  tie := .up

/-- A number in a description. -/
def describedFloat (x : Binary64) : String :=
  if x.isNaN then "NaN"
  else if x.isInfinite then if x.isNegative then "-inf" else "inf"
  else String.ofList (described.numeral x).text

/-- A value in a description: its kind, and its content in parentheses. -/
def description : Value → String
  | .nil => "Nil"
  | .bool b => "Boolean(" ++ toString b ++ ")"
  | .int n => "Integer(" ++ toString n ++ ")"
  | .float x => "Float(" ++ describedFloat x ++ ")"
  | .str s => "String(" ++ Text.quoted s ++ ")"
  | .sym s => "Symbol(" ++ Text.quoted s ++ ")"
  | .ns id => "Namespace(NamespaceId(" ++ toString id ++ "))"

end Value
end ConstantResolution
