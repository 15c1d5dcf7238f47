import ConstantResolution.Failure

/-! # Notes

What an operation tells besides its result: records for the log, calls of missing-name handlers that
asked to be recorded, and faults.  A note keeps the facts; its words are those of `Note.record?`. -/

namespace ConstantResolution

/-- How much a record matters. -/
inductive Level where
  | warn
  | debug
  | trace
deriving DecidableEq, Inhabited

/-- The name of a level. -/
def Level.text : Level → String
  | .warn => "WARN"
  | .debug => "DEBUG"
  | .trace => "TRACE"

/-- A call of a missing-name handler. -/
structure HandlerCall where
  /-- the label of the handler -/
  label : String
  /-- the path of the scope that was passed -/
  scope : String
  /-- the name that was passed -/
  name : String
deriving DecidableEq, Inhabited

/-- A note. -/
inductive Note where
  /-- A constant was bound; `again` when it had been bound before. -/
  | defined (again : Bool) (path name : String) (generation : UInt64)
  | removed (path name : String) (generation : UInt64)
  | included (mixin path : String) (generation : UInt64)
  | reopened (path : String) (generation : UInt64)
  /-- A site resolved its name by a full lookup. -/
  | resolved (name : String) (generation : UInt64) (found : Bool)
  | invalidated (name : String)
  | invalidatedAll (sites : Nat)
  /-- A site was reported as thrashing. -/
  | thrashing (name : String) (streak : UInt32)
  /-- A setting was passed over because it is not a natural number. -/
  | ignoredSetting (name text : String)
  | running (benchmark : String) (iterations : UInt64)
  | called (call : HandlerCall)
  /-- A fault arose; it is noted there, also when somebody who waits for the result goes on. -/
  | fault (f : Fault)
deriving DecidableEq

namespace Note

/-- A generation in parentheses. -/
def generationText (g : UInt64) : String := " (generation " ++ toString g.toNat ++ ")"

/-- **The log record of a note**; calls of handlers and faults are not logged. -/
def record? : Note → Option (Level × String)
  | .defined again path name g =>
    some (.debug, (if again then "redefined" else "defined") ++ " constant " ++ path ++ "::" ++
      name ++ generationText g)
  | .removed path name g =>
    some (.debug, "removed constant " ++ path ++ "::" ++ name ++ generationText g)
  | .included mixin path g =>
    some (.debug, "included " ++ mixin ++ " into " ++ path ++ generationText g)
  | .reopened path g => some (.debug, "reopened " ++ path ++ generationText g)
  | .resolved name g found =>
    some (.trace, "resolved constant " ++ name ++ " at generation " ++ toString g.toNat ++ ": " ++
      if found then "found" else "not found")
  | .invalidated name => some (.debug, "invalidated constant site " ++ name)
  | .invalidatedAll n => some (.debug, "invalidated " ++ toString n ++ " constant sites")
  | .thrashing name streak =>
    some (.warn, "constant site " ++ name ++ " re-resolved " ++ toString streak.toNat ++
      " times in a row; its scope is mutated faster than it is read")
  | .ignoredSetting name text =>
    some (.warn, "ignoring " ++ name ++ "=" ++ Text.quoted text ++
      ": not a non-negative integer")
  | .running benchmark iterations =>
    some (.debug, "running " ++ benchmark ++ " (" ++ toString iterations.toNat ++ " iterations)")
  | .called _ | .fault _ => none

/-- The handler call of a note. -/
def call? : Note → Option HandlerCall
  | .called c => some c
  | _ => none

end Note

/-- The log records among notes, in order. -/
def logOf (notes : List Note) : List (Level × String) := notes.filterMap Note.record?

/-- The handler calls among notes, in order. -/
def callsOf (notes : List Note) : List HandlerCall := notes.filterMap Note.call?

theorem callsOf_append (notes notes' : List Note) :
    callsOf (notes ++ notes') = callsOf notes ++ callsOf notes' := List.filterMap_append

end ConstantResolution
