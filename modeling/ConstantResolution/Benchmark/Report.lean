import ConstantResolution.Tally
import ConstantResolution.Decimal.Layout
import ConstantResolution.Text.Forms

/-! # Reports on benchmarks

What a run of a benchmark gave, as a line of a table for people and as JSON for programs.  The JSON
can be read back. -/

namespace ConstantResolution

/-- The result of a run. -/
structure Report where
  name : String
  description : String
  /-- milliseconds -/
  duration : Binary64
  /-- evaluations in a second, when that could be measured -/
  rate : Option Binary64
  tally : Tally
  success : Bool
  error : Option String
deriving DecidableEq

namespace Report

/-! ### The table -/

/-- The columns of the table: three texts at the right of their columns between two at the left. -/
def row (name duration rate hitRate lookups status : String) : String :=
  Text.leftIn 30 name ++ " " ++ Text.rightIn 14 duration ++ " " ++ Text.rightIn 14 rate ++ " " ++
    hitRate ++ " " ++ Text.rightIn 9 lookups ++ " " ++ Text.leftIn 8 status ++ "\n"

/-- The names of the columns, and a line below them. -/
def heading : String :=
  "\n" ++
    row "Benchmark" "Duration (ms)" "Ops/sec" (Text.rightIn 9 "Hit rate") "Lookups" "Status" ++
    String.ofList (List.replicate 90 '=') ++ "\n"

/-- A hundred, for percentages. -/
def hundred : Binary64 := .ofNat 100

/-- The lines of one result: its row, and its error on a line of its own. -/
def lines (r : Report) : Except Fault String := do
  let hitRate ← r.tally.hitRate
  let line := row r.name (Decimal.fixed 2 r.duration)
    ((r.rate.map (Decimal.fixed 0)).getD "-")
    (Text.rightIn 8 (Decimal.fixed 1 (hitRate.mul hundred)) ++ "%")
    (toString r.tally.lookups.toNat) (if r.success then "PASS" else "FAIL")
  return line ++ match r.error with
    | none => ""
    | some e => "  Error: " ++ e ++ "\n"

/-- **The table of results.** -/
def table (rs : List Report) : Except Fault String := do
  return heading ++ String.join (← rs.mapM lines)

/-! ### JSON -/

/-- The format of numbers: positional from 10⁻⁵ up to 10¹⁶, and always told apart from an
integer. -/
def layout : Decimal.Layout where
  positional := fun e => -5 ≤ e && e < 16
  keepsPoint := true
  plusSign := true
  tie := .toEven

/-- A number, or null when it is not finite. -/
def numberJson (x : Binary64) : Json :=
  if x.isFinite then .number (layout.numeral x) else .null

/-- The names of the fields, in order. -/
def fieldNames : List String :=
  ["name", "description", "duration_ms", "ops_per_sec", "stats", "success", "error"]

def toJson (r : Report) : Json :=
  .fields (fieldNames.zip
    [.text r.name, .text r.description, numberJson r.duration,
      (r.rate.map numberJson).getD .null, r.tally.toJson, .bool r.success,
      (r.error.map .text).getD .null])

/-- The result that an object holds.  The rate and the error may be absent. -/
def ofJson? (j : Json) : Option Report := do
  match ← Json.record? fieldNames j with
  | [name, description, duration, rate, tally, success, error] =>
    return {
      name := ← name.bind Json.string?
      description := ← description.bind Json.string?
      duration := ← duration.bind Json.float?
      rate := ← Json.optional? Json.float? rate
      tally := ← tally.bind Tally.ofJson?
      success := ← success.bind Json.bool?
      error := ← Json.optional? Json.string? error }
  | _ => none

/-- **The results as text.** -/
def write (rs : List Report) : String := (Json.array (rs.map toJson)).print Json.indented

/-- **The results that a text holds.** -/
def read? (s : String) : Option (List Report) := (Json.parse? s).bind (Json.array? ofJson?)

end Report
end ConstantResolution
