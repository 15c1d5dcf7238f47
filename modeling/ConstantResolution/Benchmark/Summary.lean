import ConstantResolution.Benchmark.Options
import ConstantResolution.Benchmark.Report
import ConstantResolution.Benchmark.Suite

/-! # Results of a suite

The report of a benchmark whose runs were timed, and the summary of the reports of a suite. -/

namespace ConstantResolution

/-- The last of a row of runs, how many there were, and what they took together. -/
structure Timing where
  trial : Trial
  runs : Nat
  nanoseconds : Nat

namespace Timing

/-- Runs and one more.  One that fails stands alone. -/
def followedBy (t next : Timing) : Timing :=
  if next.trial.success then
    { trial := next.trial, runs := t.runs + next.runs,
      nanoseconds := t.nanoseconds + next.nanoseconds }
  else next

/-- **The report of timed runs**: the average time of a run, and the counters of the last one. -/
def report (b : Benchmark) (t : Timing) : Report where
  name := b.name
  description := b.description
  duration := .ofQuotient false t.nanoseconds (1000000 * t.runs)
  rate := if t.nanoseconds = 0 then none
    else some (.ofQuotient false (b.iterations.toNat * t.runs * 1000000000) t.nanoseconds)
  tally := t.trial.tally
  success := t.trial.success
  error := t.trial.failure.map Failure.text

end Timing

namespace Options

/-- The benchmarks to be run, each under the policy of the environment if that was asked for. -/
def select (o : Options) (environment : Policy) (s : Suite) : Suite :=
  let s := o.filter.elim s s.filter
  if o.fromEnvironment then
    { s with benchmarks := s.benchmarks.map fun b => { b with policy := environment } }
  else s

end Options

/-- What is told before a suite runs. -/
def Suite.announcement (s : Suite) : String :=
  "Running " ++ toString s.benchmarks.length ++ " benchmarks...\n"

/-- What is told when there is nothing to run. -/
def Suite.emptyText : String := "Error: no benchmark matches the filter"

namespace Report

/-- A sum of counters. -/
def total (rs : List Report) (counter : Tally → UInt64) : Nat :=
  rs.foldl (fun n r => n + (counter r.tally).toNat) 0

/-- Whether all runs succeeded. -/
def allPass (rs : List Report) : Bool := rs.all Report.success

/-- **The summary of the reports of a suite.** -/
def summary (rs : List Report) : String :=
  let time := Binary64.sumMagnitudes (rs.map Report.duration)
  let passed := (rs.filter Report.success).length
  "\nSummary:" ++
    "\n  Total benchmarks: " ++ toString rs.length ++
    "\n  Successful: " ++ toString passed ++
    "\n  Failed: " ++ toString (rs.length - passed) ++
    "\n  Invalidations: " ++ toString (total rs Tally.invalidations) ++
    "\n  Thrashing sites: " ++ toString (total rs Tally.thrashingSites) ++
    "\n  Total time: " ++ Decimal.fixed 2 time ++ " ms (" ++
      Decimal.fixed 2 (time.div (.ofNat 1000)) ++ " s)"

end Report
end ConstantResolution
