import ConstantResolution.Decimal.Layout

/-! # JSON and its text

A JSON text as a tree.  A number is kept as the numeral that was written, because what it stands for
depends on who reads it.  A string literal may escape half of a pair of UTF-16 units: it is well
formed, but there is no text that it denotes, and the tree says so with `none`.

One printer makes the compact and the indented form, which differ in the line breaks between the items
and in the text after a key. -/

namespace ConstantResolution

/-- A JSON value. -/
inductive Json where
  | null
  | bool (b : Bool)
  | number (n : Decimal.Numeral)
  | string (s : Option String)
  | array (items : List Json)
  | object (members : List (Option String × Json))

namespace Json

/-- A text. -/
def text (s : String) : Json := .string (some s)

/-- A natural number. -/
def nat (n : Nat) : Json := .number (.ofNat n)

/-- An object, by its members in order. -/
def fields (members : List (String × Json)) : Json :=
  .object (members.map fun m => (some m.1, m.2))

/-! ### Strings -/

/-- Four lower-case hexadecimal digits. -/
def hex4 (n : Nat) : List Char :=
  let ds := Nat.toDigits 16 n
  List.replicate (4 - ds.length) '0' ++ ds

/-- A character inside a string literal: the quote, the backslash and the controls are escaped. -/
def literalChar (c : Char) : List Char :=
  if c == '"' || c == '\\' then ['\\', c]
  else if c == '\x08' then ['\\', 'b']
  else if c == '\t' then ['\\', 't']
  else if c == '\n' then ['\\', 'n']
  else if c == '\x0c' then ['\\', 'f']
  else if c == '\r' then ['\\', 'r']
  else if c.toNat < 0x20 then ['\\', 'u'] ++ hex4 c.toNat
  else [c]

/-- The literal of a text. -/
def literal (s : List Char) : List Char := ['"'] ++ s.flatMap literalChar ++ ['"']

/-! ### Values -/

/-- What stands in front of an item at a depth, and between a key and its value. -/
structure Style where
  lineBreak : Nat → List Char
  colon : List Char

/-- No space at all. -/
def compact : Style := ⟨fun _ => [], [':']⟩

/-- Each item on a line of its own, with two blanks for a level. -/
def indented : Style := ⟨fun depth => '\n' :: List.replicate (2 * depth) ' ', [':', ' ']⟩

/-- A key and the text up to its value. -/
def key (style : Style) (k : Option String) : List Char :=
  literal (k.getD "").toList ++ style.colon

mutual

/-- The text of a value at a depth. -/
def render (style : Style) (depth : Nat) : Json → List Char
  | .null => ['n', 'u', 'l', 'l']
  | .bool true => ['t', 'r', 'u', 'e']
  | .bool false => ['f', 'a', 'l', 's', 'e']
  | .number n => n.text
  | .string s => literal (s.getD "").toList
  | .array [] => ['[', ']']
  | .array (j :: js) =>
    '[' :: (style.lineBreak (depth + 1) ++ render style (depth + 1) j ++ renderItems style depth js)
  | .object [] => ['{', '}']
  | .object ((k, j) :: ms) =>
    '{' :: (style.lineBreak (depth + 1) ++ key style k ++ render style (depth + 1) j ++
      renderMembers style depth ms)

/-- The items after the first, and the closing bracket. -/
def renderItems (style : Style) (depth : Nat) : List Json → List Char
  | [] => style.lineBreak depth ++ [']']
  | j :: js =>
    ',' :: (style.lineBreak (depth + 1) ++ render style (depth + 1) j ++ renderItems style depth js)

/-- The members after the first, and the closing brace. -/
def renderMembers (style : Style) (depth : Nat) : List (Option String × Json) → List Char
  | [] => style.lineBreak depth ++ ['}']
  | (k, j) :: ms =>
    ',' :: (style.lineBreak (depth + 1) ++ key style k ++ render style (depth + 1) j ++
      renderMembers style depth ms)

end

/-- **The text of a value.** -/
def print (j : Json) (style : Style) : String := String.ofList (render style 0 j)

end Json
end ConstantResolution
