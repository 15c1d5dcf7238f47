import ConstantResolution.Json.Basic

/-! # Reading JSON

Scanners take the text that is left and return what they found together with the rest.
`Json.parse?` reads one value and nothing but white space around it. -/

namespace ConstantResolution.Json

/-! ### White space and numerals -/

def isSpace (c : Char) : Bool := c == ' ' || c == '\n' || c == '\t' || c == '\r'

def skipSpace (cs : List Char) : List Char := cs.dropWhile isSpace

/-- A sign in front, which is taken when it is there. -/
def scanMinus : List Char → Bool × List Char
  | '-' :: cs => (true, cs)
  | cs => (false, cs)

/-- Digits, at least one. -/
def scanDigits (cs : List Char) : Option (List Char × List Char) :=
  let ds := cs.takeWhile Char.isDigit
  if ds.isEmpty then none else some (ds, cs.dropWhile Char.isDigit)

/-- The digits before the point: one zero, or digits that start with another. -/
def scanWhole (cs : List Char) : Option (List Char × List Char) :=
  match scanDigits cs with
  | some ('0' :: _ :: _, _) => none
  | r => r

/-- The digits behind the point, if there is a point. -/
def scanFraction : List Char → Option (List Char × List Char)
  | '.' :: cs => scanDigits cs
  | cs => some ([], cs)

/-- The sign of an exponent. -/
def scanExponentSign : List Char → Decimal.ExponentSign × List Char
  | '+' :: cs => (.plus, cs)
  | '-' :: cs => (.minus, cs)
  | cs => (.none, cs)

/-- The exponent, if there is one. -/
def scanExponent : List Char → Option (Option Decimal.ExponentPart × List Char)
  | c :: cs =>
    if c == 'e' || c == 'E' then
      let (sign, cs) := scanExponentSign cs
      (scanDigits cs).map fun (digits, cs) => (some ⟨sign, digits⟩, cs)
    else some (none, c :: cs)
  | [] => some (none, [])

/-- A numeral. -/
def scanNumeral (cs : List Char) : Option (Decimal.Numeral × List Char) := do
  let (negative, cs) := scanMinus cs
  let (whole, cs) ← scanWhole cs
  let (fraction, cs) ← scanFraction cs
  let (exponent, cs) ← scanExponent cs
  return ({ negative, whole, fraction, exponent }, cs)

/-! ### Strings -/

/-- What a literal is made of: characters, and the halves of pairs of UTF-16 units. -/
inductive Piece where
  | char (c : Char)
  | half (unit : Nat)

/-- The value of a hexadecimal digit of either case. -/
def hexValue (c : Char) : Option Nat :=
  if c.isDigit then some (c.toNat - '0'.toNat)
  else if 'a' ≤ c && c ≤ 'f' then some (c.toNat - 'a'.toNat + 10)
  else if 'A' ≤ c && c ≤ 'F' then some (c.toNat - 'A'.toNat + 10)
  else none

/-- The unit that four hexadecimal digits give. -/
def unitOf (a b c d : Char) : Option Nat := do
  let a ← hexValue a
  let b ← hexValue b
  let c ← hexValue c
  let d ← hexValue d
  return ((a * 16 + b) * 16 + c) * 16 + d

/-- A unit by itself is a character unless it lies among the surrogates. -/
def Piece.ofUnit (u : Nat) : Piece :=
  if 0xD800 ≤ u && u < 0xE000 then .half u else .char (Char.ofNat u)

/-- The characters that a backslash and one letter stand for. -/
def shortEscape (c : Char) : Option Char :=
  if c == '"' || c == '\\' || c == '/' then some c
  else if c == 'b' then some '\x08'
  else if c == 'f' then some '\x0c'
  else if c == 'n' then some '\n'
  else if c == 'r' then some '\r'
  else if c == 't' then some '\t'
  else none

/-- The pieces up to the closing quote.  A control character must be escaped. -/
def scanPieces : List Char → Option (List Piece × List Char)
  | [] => none
  | '"' :: cs => some ([], cs)
  | '\\' :: 'u' :: a :: b :: c :: d :: cs =>
    match unitOf a b c d, scanPieces cs with
    | some u, some (ps, rest) => some (.ofUnit u :: ps, rest)
    | _, _ => none
  | '\\' :: c :: cs =>
    match shortEscape c, scanPieces cs with
    | some e, some (ps, rest) => some (.char e :: ps, rest)
    | _, _ => none
  | c :: cs =>
    if c.toNat < 0x20 || c == '\\' then none
    else (scanPieces cs).map fun (ps, rest) => (.char c :: ps, rest)

/-- A high half and the low half after it make one character; any other half makes none. -/
def joined : List Piece → Option (List Char)
  | [] => some []
  | .char c :: ps => (joined ps).map (c :: ·)
  | .half h :: .half l :: ps =>
    if h < 0xDC00 && 0xDC00 ≤ l then
      (joined ps).map (Char.ofNat (0x10000 + (h - 0xD800) * 0x400 + (l - 0xDC00)) :: ·)
    else none
  | .half _ :: _ => none

/-- A literal after its opening quote: its text, if it denotes one, and the rest. -/
def scanLiteral (cs : List Char) : Option (Option String × List Char) :=
  (scanPieces cs).map fun (ps, rest) => ((joined ps).map String.ofList, rest)

/-! ### Values -/

mutual

/-- A value and what follows it.  The first argument bounds the depth of the calls. -/
def scanValue : Nat → List Char → Option (Json × List Char)
  | 0, _ => none
  | fuel + 1, cs =>
    match skipSpace cs with
    | 'n' :: 'u' :: 'l' :: 'l' :: cs => some (.null, cs)
    | 't' :: 'r' :: 'u' :: 'e' :: cs => some (.bool true, cs)
    | 'f' :: 'a' :: 'l' :: 's' :: 'e' :: cs => some (.bool false, cs)
    | '"' :: cs => (scanLiteral cs).map fun (s, cs) => (.string s, cs)
    | '[' :: cs =>
      match skipSpace cs with
      | ']' :: cs => some (.array [], cs)
      | cs => (scanItems fuel cs).map fun (js, cs) => (.array js, cs)
    | '{' :: cs =>
      match skipSpace cs with
      | '}' :: cs => some (.object [], cs)
      | cs => (scanMembers fuel cs).map fun (ms, cs) => (.object ms, cs)
    | cs => (scanNumeral cs).map fun (n, cs) => (.number n, cs)

/-- The items of an array up to its closing bracket, at least one. -/
def scanItems : Nat → List Char → Option (List Json × List Char)
  | 0, _ => none
  | fuel + 1, cs =>
    match scanValue fuel cs with
    | none => none
    | some (j, cs) =>
      match skipSpace cs with
      | ']' :: cs => some ([j], cs)
      | ',' :: cs => (scanItems fuel cs).map fun (js, cs) => (j :: js, cs)
      | _ => none

/-- The members of an object up to its closing brace, at least one. -/
def scanMembers : Nat → List Char → Option (List (Option String × Json) × List Char)
  | 0, _ => none
  | fuel + 1, cs =>
    match skipSpace cs with
    | '"' :: cs =>
      match scanLiteral cs with
      | none => none
      | some (k, cs) =>
        match skipSpace cs with
        | ':' :: cs =>
          match scanValue fuel cs with
          | none => none
          | some (j, cs) =>
            match skipSpace cs with
            | '}' :: cs => some ([(k, j)], cs)
            | ',' :: cs => (scanMembers fuel cs).map fun (ms, cs) => ((k, j) :: ms, cs)
            | _ => none
        | _ => none
    | _ => none

end

/-- **The value that a text holds.**  Every other call takes at least one character, so twice the
length of the text bounds their depth. -/
def parse? (s : String) : Option Json :=
  match scanValue (2 * s.toList.length + 2) s.toList with
  | some (j, rest) => if (skipSpace rest).isEmpty then some j else none
  | none => none

end ConstantResolution.Json
