import ConstantResolution.Policy
import ConstantResolution.Value
import ConstantResolution.Text.Forms
import ConstantResolution.Tally

/-! # Reference sites

A site is one place in the code that reads a constant.  It keeps a memo: the value that its name
resolved to, and the generation of the scope that was read before that lookup.  It also counts the
lookups since its last hit. -/

namespace ConstantResolution

/-- A resolved value, and the generation of the scope when the lookup began. -/
structure Memo where
  value : Value
  generation : UInt64
deriving DecidableEq, Inhabited

/-- A generation as it is shown, in a signed word. -/
def Memo.stamp (m : Memo) : Int64 := m.generation.toInt64

/-- The stamp of a site that never stored a value. -/
def neverStamped : Int64 := -1

/-- A reference site. -/
structure Site where
  name : String
  position : Position
  policy : Policy
  memo : Option Memo := none
  /-- the stamp of the memo stored last -/
  lastStamp : Int64 := neverStamped
  /-- the lookups in a row since the last hit -/
  streak : UInt32 := 0
  /-- whether the site was reported as thrashing -/
  reported : Bool := false
deriving DecidableEq

namespace Site

/-- A site for a name.  A text that names no constant is a fault. -/
def new (name : String) (position : Position) (policy : Policy) : Except Fault Site :=
  if isConstantName name then .ok { name, position, policy } else .error (.invalidSiteName name)

/-! ### What a site shows -/

/-- The generation of the memo, or of the one stored last, or the sign that there was none. -/
def stamp (s : Site) : Int64 := (s.memo.map Memo.stamp).getD s.lastStamp

def isMemoized (s : Site) : Bool := s.memo.isSome

/-- The value in the memo, current or not. -/
def memoized? (s : Site) : Option Value := s.memo.map Memo.value

/-- A site as it is shown. -/
def text (s : Site) : String := "ConstRef [" ++ s.name ++ "]"

/-- A position in a description. -/
def positionDescription (p : Position) : String :=
  "SourcePosition \x7b file: " ++ Text.quoted p.file ++ ", line: " ++ toString p.line ++
    ", column: " ++ toString p.column ++ " \x7d"

/-- A site in a description, with its position and its memo. -/
def description (s : Site) : String :=
  "ConstRef \x7b position: " ++ positionDescription s.position ++
    ", cache: ConstantCache \x7b name: " ++ Text.quoted s.name ++ ", cached_value: " ++
    (match s.memoized? with
      | none => "None"
      | some v => "Some(" ++ v.description ++ ")") ++
    ", stamp: " ++ toString s.stamp.toInt ++ " \x7d \x7d"

/-! ### Steps of a site -/

/-- Drops the memo. -/
def forget (s : Site) : Site := { s with memo := none }

/-- Gives the site another name.  A memo is for one name only. -/
def rename (s : Site) (name : String) : Except Cause Site :=
  if isConstantName name then .ok { s with name, memo := none } else .error (.wrongName name)

/-- The memo's value, when it was made at this generation. -/
def served? (s : Site) (generation : UInt64) : Option Value :=
  (s.memo.filter fun m => m.generation == generation).map Memo.value

/-- Ends the row of lookups. -/
def endStreak (s : Site) : Site := { s with streak := 0 }

/-- Takes the result of a lookup that began at a generation.  What was not found is not kept, and
drops what was kept before. -/
def store (s : Site) (generation : UInt64) (found : Option Value) : Site :=
  match found with
  | some value =>
    let m : Memo := { value, generation }
    { s with memo := some m, lastStamp := m.stamp }
  | none => s.forget

/-- The greatest number of lookups in a row. -/
def lastStreak : UInt32 := 0xFFFFFFFF

/-- One lookup more in a row; past the greatest number the counter runs over. -/
def countLookup (s : Site) : Site := { s with streak := s.streak + 1 }

/-- Whether the site is to be reported now: the row is long enough, and it was not reported. -/
def isThrashing (s : Site) : Bool := s.policy.threshold ≤ s.streak && !s.reported

/-- Marks the site as reported. -/
def markReported (s : Site) : Site := { s with reported := true }

end Site
end ConstantResolution
