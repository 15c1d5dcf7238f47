import ConstantResolution.Benchmark.Workload

/-! # Benchmarks

A benchmark runs a workload in a realm of its own and reports the counters of that realm.  What a
run takes in time is measured elsewhere. -/

namespace ConstantResolution

/-- A workload with its number of evaluations and the policy that it runs under. -/
structure Benchmark where
  name : String
  description : String
  iterations : UInt64
  policy : Policy
  workload : Workload
deriving DecidableEq

/-- What a run gave. -/
structure Trial where
  tally : Tally
  failure : Option Failure
deriving DecidableEq

/-- Whether a run came to its end. -/
def Trial.success (t : Trial) : Bool := t.failure.isNone

namespace Benchmark

/-- A benchmark in a description. -/
def describe (b : Benchmark) : String :=
  "Benchmark \x7b name: " ++ Text.quoted b.name ++
    ", iterations: " ++ toString b.iterations.toNat ++
    ", config: " ++ b.policy.description ++ " \x7d"

/-- The workload in a new realm, which is the only one. -/
def program (b : Benchmark) : Action Store Unit := do
  let r ← Store.newRealm b.policy
  b.workload.perform r b.iterations

/-- **Runs a benchmark once.** -/
def trial (b : Benchmark) : Trial :=
  let o := b.program {}
  { tally := o.state.tally (o.state.realm 0).tally
    failure := match o.result with
      | .ok () => none
      | .error e => some e }

/-- The note of a run. -/
def note (b : Benchmark) : Note := .running b.name b.iterations

/-- Runs a benchmark once and `more` times, as long as it succeeds. -/
def trials (b : Benchmark) : Nat → List Note × Trial
  | 0 => ([b.note], b.trial)
  | more + 1 =>
    if b.trial.success then (b.note :: (b.trials more).1, (b.trials more).2)
    else ([b.note], b.trial)

/-- **Runs a benchmark a number of times, at least once**, until it fails.  The result is that of
the last run. -/
def runMultiple (b : Benchmark) (runs : Nat) : List Note × Trial := b.trials (runs - 1)

end Benchmark

/-! ### Suites -/

/-- Benchmarks under a name. -/
structure Suite where
  name : String
  benchmarks : List Benchmark
deriving DecidableEq

namespace Suite

/-- Whether a text occurs in another one. -/
def occurs (pattern : List Char) : List Char → Bool
  | [] => pattern.isEmpty
  | c :: cs => pattern.isPrefixOf (c :: cs) || occurs pattern cs

/-- Keeps the benchmarks in whose names a text occurs. -/
def filter (s : Suite) (pattern : String) : Suite :=
  { s with benchmarks := s.benchmarks.filter fun b => occurs pattern.toList b.name.toList }

/-- The number of evaluations of those that need no lookup for each. -/
def iterations : UInt64 := 1000000

/-- **The benchmarks of reference sites.** -/
def micro : Suite where
  name := "micro"
  benchmarks := [
    { name := "hot_hit"
      description := "Repeated reads of an unmutated deep constant"
      iterations, policy := {}, workload := .repeatedReads },
    { name := "uncached_lookup"
      description := "Same reads with caching disabled (full walk each time)"
      iterations, policy := .uncached, workload := .repeatedReads },
    { name := "redefine_each_read"
      description := "Redefinition before every read (generation mismatch path)"
      iterations := iterations / 10, policy := {}, workload := .redefinedReads },
    { name := "forced_miss"
      description := "Invalidate before every read"
      iterations := iterations / 10, policy := {}, workload := .forcedReads },
    { name := "missing_name_fallback"
      description := "Reads of an undefined constant through a handler"
      iterations := iterations / 10, policy := {}, workload := .answeredReads },
    { name := "contended_hot_hit"
      description := "Hot reads of one site from four threads"
      iterations, policy := {}, workload := .sharedReads }]

end Suite
end ConstantResolution
