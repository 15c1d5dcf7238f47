import ConstantResolution.Benchmark.Summary

/-! # The benchmark program

Runs the benchmarks of reference sites, takes the time, and prints a table with a summary or JSON.
All that is computed is computed elsewhere: here are the clock, the environment and the output. -/

open ConstantResolution

/-- The exit code for a command line that is not understood. -/
def usageExit : UInt32 := 2

/-- Runs a benchmark once, and takes the time. -/
def timedRun (b : Benchmark) : IO Timing := do
  let start ← IO.monoNanosNow
  let trial ← IO.lazyPure fun _ => b.trial
  let stop ← IO.monoNanosNow
  return { trial, runs := 1, nanoseconds := stop - start }

/-- Runs a benchmark `more` times after the runs that were timed, as long as it succeeds. -/
def timedRuns (b : Benchmark) : Nat → Timing → IO Timing
  | 0, t => return t
  | more + 1, t => do
    if t.trial.success then timedRuns b more (t.followedBy (← timedRun b)) else return t

/-- Runs a suite, and prints its results. -/
def runSuite (o : Options) (s : Suite) : IO UInt32 := do
  if s.benchmarks.isEmpty then
    IO.eprintln Suite.emptyText
    return 1
  unless o.json do IO.println s.announcement
  let reports ← s.benchmarks.mapM fun b => do
    return (← timedRuns b (o.runs.getD 1 - 1) (← timedRun b)).report b
  if o.json then
    IO.println (Report.write reports)
    return 0
  match Report.table reports with
  | .error f =>
    IO.eprintln f.message
    return 1
  | .ok table =>
    IO.println table
    IO.println (Report.summary reports)
    return if Report.allPass reports then 0 else 1

/-- The policy that the environment asks for. -/
def environmentPolicy : IO Policy := do
  let disabled ← IO.getEnv Policy.disabledVariable
  let threshold ← IO.getEnv Policy.thresholdVariable
  let value? := fun name =>
    if name = Policy.disabledVariable then disabled
    else if name = Policy.thresholdVariable then threshold
    else none
  return (Policy.ofVariables value?).1

def main (words : List String) : IO UInt32 := do
  match Options.parse words with
  | .error e =>
    IO.eprintln e.text
    return usageExit
  | .ok .help =>
    IO.println helpText
    return 0
  | .ok .version =>
    IO.println versionText
    return 0
  | .ok (.run o) => runSuite o (o.select (← environmentPolicy) Suite.micro)
