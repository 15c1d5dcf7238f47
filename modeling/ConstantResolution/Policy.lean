import ConstantResolution.Action
import ConstantResolution.Text.Forms

/-! # Policies of reference sites

Whether sites keep memos, and how many lookups in a row, without a hit between them, are reported as
thrashing.  Two variables override the default. -/

namespace ConstantResolution

/-- How reference sites behave. -/
structure Policy where
  /-- Serve a memo as long as the generation is the one it was made at. -/
  enabled : Bool := true
  /-- The number of lookups in a row that is reported; 0 reports none. -/
  threshold : UInt32 := 64
deriving DecidableEq, Inhabited

namespace Policy

/-- Every evaluation looks its name up. -/
def uncached : Policy := { enabled := false }

/-! ### Settings -/

/-- The variable that turns memos off. -/
def disabledVariable : String := "CONST_CACHE_DISABLED"

/-- The variable that sets the threshold. -/
def thresholdVariable : String := "CONST_CACHE_THRASH_THRESHOLD"

/-- Whether a setting means yes: one of three words, in either case and with white space around. -/
def isYes (s : String) : Bool :=
  let word := String.ofList ((Text.trimmed s.toList).map Char.toLower)
  word == "1" || word == "true" || word == "yes"

/-- The number that a setting stands for: a natural below 2³², with white space around. -/
def number? (s : String) : Option UInt32 :=
  ((Text.natural? (Text.trimmed s.toList)).filter fun n => n < UInt32.size).map UInt32.ofNat

/-- **The policy that variables ask for.**  What is not set, or not understood, keeps its default; a
threshold that is not understood is noted. -/
def ofVariables (value? : String → Option String) : Policy × List Note :=
  let enabled := ((value? disabledVariable).map fun s => !isYes s).getD true
  match value? thresholdVariable with
  | none => ({ enabled }, [])
  | some s =>
    match number? s with
    | some threshold => ({ enabled, threshold }, [])
    | none => ({ enabled }, [.ignoredSetting thresholdVariable s])

/-! ### Description -/

/-- A policy in a description. -/
def description (p : Policy) : String :=
  "CacheConfig \x7b enabled: " ++ toString p.enabled ++ ", thrash_threshold: " ++
    toString p.threshold.toNat ++ " \x7d"

end Policy
end ConstantResolution
