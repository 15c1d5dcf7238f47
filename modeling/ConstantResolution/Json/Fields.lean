import ConstantResolution.Json.Number

/-! # Records as JSON

A record is an object with named fields.  It is also accepted as an array of all fields in order.
Fields that nobody asks for are passed over; one that is asked for must not be given twice. -/

namespace ConstantResolution.Json

/-- The values under a key. -/
def valuesOf (name : String) (members : List (Option String × Json)) : List Json :=
  (members.filter fun m => m.1 == some name).map (·.2)

/-- **The fields of a record**, in the order of `names`, each absent or given once. -/
def record? (names : List String) : Json → Option (List (Option Json))
  | .object members =>
    if members.all (·.1.isSome) && names.all (fun n => (valuesOf n members).length ≤ 1) then
      some (names.map fun n => (valuesOf n members).head?)
    else none
  | .array items => if items.length = names.length then some (items.map some) else none
  | _ => none

/-! ### Kinds of fields -/

def string? : Json → Option String
  | .string s => s
  | _ => none

def bool? : Json → Option Bool
  | .bool b => some b
  | _ => none

def float? : Json → Option Binary64
  | .number n => number? n
  | _ => none

def count? : Json → Option UInt64
  | .number n => counter? n
  | _ => none

/-- A field that may be absent or null. -/
def optional? {α : Type} (read : Json → Option α) : Option Json → Option (Option α)
  | none => some none
  | some .null => some none
  | some j => (read j).map some

/-- The items of an array. -/
def array? {α : Type} (read : Json → Option α) : Json → Option (List α)
  | .array items => items.mapM read
  | _ => none

end ConstantResolution.Json
