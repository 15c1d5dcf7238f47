import ConstantResolution.Text.Characters

/-! # Forms of text

Names of constants, texts in quotes, texts without the white space at their ends, naturals in decimal
digits, and texts that fill a column. -/

namespace ConstantResolution

/-! ### Names of constants

A name of a constant starts with an uppercase character and goes on with alphanumeric characters and
underscores. -/

/-- Characters that a name may hold after its first one. -/
def isNameChar (c : Char) : Bool := Text.isAlphanumeric c || c == '_'

/-- **Which texts name constants.** -/
def isConstantName (name : String) : Bool :=
  name.toList.head?.any Text.isUppercase && name.toList.all isNameChar

namespace Text

/-! ### Quoted text

A text in double quotes on one line, in which every character can be told from every other: the
quote, the backslash and the characters that have no glyph of their own are escaped. -/

/-- Lower-case hexadecimal digits, most significant first; zero is `0`. -/
def hexDigits (n : Nat) : List Char := Nat.toDigits 16 n

/-- A quoted character: five short escapes and the two of the format's own characters, itself when
it stands alone, and its code point otherwise. -/
def quotedChar (c : Char) : List Char :=
  if c == '\x00' then ['\\', '0']
  else if c == '\t' then ['\\', 't']
  else if c == '\r' then ['\\', 'r']
  else if c == '\n' then ['\\', 'n']
  else if c == '"' || c == '\\' then ['\\', c]
  else if isStandalone c then [c]
  else ['\\', 'u', '{'] ++ hexDigits c.toNat ++ ['}']

/-- A text between double quotes. -/
def quoted (s : String) : String :=
  String.ofList (['"'] ++ s.toList.flatMap quotedChar ++ ['"'])

/-! ### Trimmed text -/

/-- The characters of a text from its first to its last one that is not white space. -/
def trimmed (s : List Char) : List Char :=
  ((s.dropWhile isBlank).reverse.dropWhile isBlank).reverse

/-! ### Naturals

A natural is written in decimal digits, with or without a plus sign in front. -/

/-- The natural that a row of digits stands for. -/
def digits? : List Char → Option Nat
  | [] => none
  | c :: cs =>
    if (c :: cs).all Char.isDigit then
      some ((c :: cs).foldl (fun n d => 10 * n + (d.toNat - '0'.toNat)) 0)
    else none

/-- **The natural that a text stands for.** -/
def natural? : List Char → Option Nat
  | '+' :: ds => digits? ds
  | ds => digits? ds

/-! ### Columns

Texts padded with blanks to a width counted in characters.  A text that is wider is left as it
is. -/

/-- Blanks that are missing to the width. -/
def missing (width : Nat) (s : String) : String :=
  String.ofList (List.replicate (width - s.length) ' ')

/-- The text at the left of its column. -/
def leftIn (width : Nat) (s : String) : String := s ++ missing width s

/-- The text at the right of its column. -/
def rightIn (width : Nat) (s : String) : String := missing width s ++ s

end Text
end ConstantResolution
