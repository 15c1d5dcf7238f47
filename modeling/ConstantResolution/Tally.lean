import ConstantResolution.Failure
import ConstantResolution.Binary64.Arithmetic
import ConstantResolution.Json.Fields
import ConstantResolution.Json.Reader

/-! # Counters of reference sites

Six counters of what reference sites did, each of 64 bits and running over to zero.  Nothing that
resolves a name reads them. -/

namespace ConstantResolution

/-- What is counted. -/
inductive Count where
  | invalidation
  | hit
  | miss
  | lookup
  | notFound
  | thrashing
deriving DecidableEq, Inhabited

/-- The counters. -/
structure Tally where
  /-- forced invalidations -/
  invalidations : UInt64 := 0
  /-- evaluations served from the memo -/
  hits : UInt64 := 0
  /-- evaluations that resolved again -/
  misses : UInt64 := 0
  /-- full resolution walks -/
  lookups : UInt64 := 0
  /-- walks that found nothing -/
  notFound : UInt64 := 0
  /-- sites reported as thrashing -/
  thrashingSites : UInt64 := 0
deriving DecidableEq, Inhabited

namespace Tally

/-- One more event. -/
def record (t : Tally) : Count → Tally
  | .invalidation => { t with invalidations := t.invalidations + 1 }
  | .hit => { t with hits := t.hits + 1 }
  | .miss => { t with misses := t.misses + 1 }
  | .lookup => { t with lookups := t.lookups + 1 }
  | .notFound => { t with notFound := t.notFound + 1 }
  | .thrashing => { t with thrashingSites := t.thrashingSites + 1 }

/-- A row of events. -/
def recordAll (t : Tally) (events : List Count) : Tally := events.foldl record t

/-- A difference of counters that stops at zero. -/
def growth (later earlier : UInt64) : UInt64 := if earlier ≤ later then later - earlier else 0

/-- **What was counted between two looks at the counters.** -/
def since (later earlier : Tally) : Tally where
  invalidations := growth later.invalidations earlier.invalidations
  hits := growth later.hits earlier.hits
  misses := growth later.misses earlier.misses
  lookups := growth later.lookups earlier.lookups
  notFound := growth later.notFound earlier.notFound
  thrashingSites := growth later.thrashingSites earlier.thrashingSites

/-- **The fraction of evaluations that the memo served**, and zero when there were none.  The number
of evaluations has to fit a counter. -/
def hitRate (t : Tally) : Except Fault Binary64 :=
  let total := t.hits.toNat + t.misses.toNat
  if UInt64.size ≤ total then .error (.overflow .evaluations)
  else if total = 0 then .ok .zero
  else .ok ((Binary64.ofNat t.hits.toNat).div (.ofNat total))

/-! ### JSON -/

/-- The names of the counters, in order. -/
def fieldNames : List String :=
  ["invalidations", "hits", "misses", "lookups", "not_found", "thrashing_sites"]

/-- The counters in order. -/
def counters (t : Tally) : List UInt64 :=
  [t.invalidations, t.hits, t.misses, t.lookups, t.notFound, t.thrashingSites]

/-- The counters as an object. -/
def toJson (t : Tally) : Json :=
  .fields (fieldNames.zip (t.counters.map fun c => .nat c.toNat))

/-- The counters that an object holds; none may be absent. -/
def ofJson? (j : Json) : Option Tally := do
  match ← (← Json.record? fieldNames j).mapM (·.bind Json.count?) with
  | [invalidations, hits, misses, lookups, notFound, thrashingSites] =>
    return { invalidations, hits, misses, lookups, notFound, thrashingSites }
  | _ => none

/-- The counters as text. -/
def write (t : Tally) : String := t.toJson.print Json.compact

/-- The counters that a text holds. -/
def read? (s : String) : Option Tally := (Json.parse? s).bind ofJson?

end Tally
end ConstantResolution
