import ConstantResolution.Text.Forms

/-! # Options of the benchmark program

What the words of a command line ask for: help, the version, or a run with a few options.  An option
that takes a value has it behind an equals sign or as the next word. -/

namespace ConstantResolution

/-- How benchmarks are to be run and reported. -/
structure Options where
  /-- report as JSON instead of a table -/
  json : Bool := false
  /-- the text that the names of the benchmarks must hold -/
  filter : Option String := none
  /-- how many runs are averaged -/
  runs : Option Nat := none
  /-- take the policy from variables of the environment -/
  fromEnvironment : Bool := false
deriving DecidableEq

/-- What is asked for. -/
inductive Request where
  | help
  | version
  | run (options : Options)
deriving DecidableEq

/-- What is wrong with a command line. -/
inductive UsageError where
  /-- A word that is no option, and no value of one. -/
  | unexpected (word : String)
  | repeated (option : String)
  /-- An option that takes a value stands without one. -/
  | noValue (option : String)
  /-- An option that takes no value stands with one. -/
  | unneededValue (option value : String)
  | notNumber (option value : String)
deriving DecidableEq

namespace Options

/-! ### Names -/

def jsonName : String := "--json"

def filterName : String := "--filter"

def runsName : String := "--runs"

def environmentName : String := "--env-config"

def helpNames : List String := ["--help", "-h"]

def versionNames : List String := ["--version", "-V"]

/-- The options that take no value. -/
def flagNames : List String := [jsonName, environmentName] ++ helpNames ++ versionNames

/-- The word behind which no option stands. -/
def endOfOptions : String := "--"

/-! ### Words -/

/-- A word up to its first equals sign, and what it holds behind that, if it looks like an option
with a long name. -/
def splitWord (word : String) : String × Option String :=
  let cs := word.toList
  if ['-', '-'].isPrefixOf cs then
    match cs.dropWhile (· ≠ '=') with
    | [] => (word, none)
    | _ :: value => (String.ofList (cs.takeWhile (· ≠ '=')), some (String.ofList value))
  else (word, none)

/-- Whether a word can be the value of the option before it. -/
def isValue (word : String) : Bool := word == "-" || word.toList.head? != some '-'

def withFilter (o : Options) (value : String) : Except UsageError Options :=
  if o.filter.isSome then .error (.repeated filterName) else .ok { o with filter := some value }

/-- The number of runs is a natural below 2⁶⁴. -/
def withRuns (o : Options) (value : String) : Except UsageError Options :=
  if o.runs.isSome then .error (.repeated runsName)
  else match (Text.natural? value.toList).filter fun n => n < UInt64.size with
    | some n => .ok { o with runs := some n }
    | none => .error (.notNumber runsName value)

def withJson (o : Options) : Except UsageError Options :=
  if o.json then .error (.repeated jsonName) else .ok { o with json := true }

def withEnvironment (o : Options) : Except UsageError Options :=
  if o.fromEnvironment then .error (.repeated environmentName)
  else .ok { o with fromEnvironment := true }

/-- Adds what an option that takes no value asks for. -/
def withFlag (o : Options) (word : String) : Except UsageError Options :=
  if word = jsonName then o.withJson
  else if word = environmentName then o.withEnvironment
  else .error (.unexpected word)

/-- How an option takes its value, if it takes one. -/
def valueOf? (word : String) : Option (Options → String → Except UsageError Options) :=
  if word = filterName then some withFilter
  else if word = runsName then some withRuns
  else none

/-- What is wrong when a word that is no value stands behind an option that takes one. -/
def misplaced (option next : String) : UsageError :=
  let name := (splitWord next).1
  if name = endOfOptions ∨ name ∈ flagNames ∨ (valueOf? name).isSome then .noValue option
  else .unexpected name

/-- Adds what a row of words asks for. -/
def extend (o : Options) : List String → Except UsageError Request
  | [] => .ok (.run o)
  | word :: rest =>
    if word ∈ helpNames then .ok .help
    else if word ∈ versionNames then .ok .version
    else if word = endOfOptions then
      match rest with
      | [] => .ok (.run o)
      | next :: _ => .error (.unexpected next)
    else
      let (name, value) := splitWord word
      match valueOf? name, value, rest with
      | some take, some value, rest => do (← take o value).extend rest
      | some take, none, next :: rest =>
        if isValue next then do (← take o next).extend rest else .error (misplaced name next)
      | some _, none, [] => .error (.noValue name)
      | none, none, rest => do (← o.withFlag name).extend rest
      | none, some value, _ =>
        .error (if name ∈ flagNames then .unneededValue name value else .unexpected name)

/-- **What a command line asks for.** -/
def parse (words : List String) : Except UsageError Request := ({} : Options).extend words

end Options

/-! ### Texts -/

/-- The name of the program. -/
def programName : String := "const-cache-bench"

/-- The name of the program with its version. -/
def versionText : String := programName ++ " 0.1.0"

/-- How the program is called. -/
def usageText : String := "Usage: " ++ programName ++ " [OPTIONS]"

/-- What the options mean. -/
def helpText : String :=
  "Measure constant reference site performance\n\n" ++ usageText ++ "\n\nOptions:\n" ++
    "      --json             Output results as JSON\n" ++
    "      --filter <FILTER>  Only run benchmarks whose name contains this string\n" ++
    "      --runs <RUNS>      Number of runs to average per benchmark [default: 1]\n" ++
    "      --env-config       Run every benchmark with the cache configuration from " ++
    "CONST_CACHE_* variables\n" ++
    "  -h, --help             Print help\n" ++
    "  -V, --version          Print version"

namespace UsageError

/-- An option with the name of its value. -/
def withValueName (option : String) : String :=
  if option = Options.filterName then option ++ " <FILTER>"
  else if option = Options.runsName then option ++ " <RUNS>"
  else option

/-- Why a text is no number of runs. -/
def numberFault (value : String) : String :=
  if value = "" then "cannot parse integer from empty string"
  else if (Text.natural? value.toList).isSome then "number too large to fit in target type"
  else "invalid digit found in string"

def message : UsageError → String
  | .unexpected word => "unexpected argument '" ++ word ++ "' found"
  | .repeated option =>
    "the argument '" ++ withValueName option ++ "' cannot be used multiple times"
  | .noValue option =>
    "a value is required for '" ++ withValueName option ++ "' but none was supplied"
  | .unneededValue option value =>
    "unexpected value '" ++ value ++ "' for '" ++ option ++ "' found; no more were expected"
  | .notNumber option value =>
    "invalid value '" ++ value ++ "' for '" ++ withValueName option ++ "': " ++ numberFault value

/-- Whether it helps to be told how the program is called: not when it is a value that is wrong. -/
def showsUsage : UsageError → Bool
  | .unexpected _ => true
  | .repeated _ => true
  | .unneededValue _ _ => true
  | .noValue _ => false
  | .notNumber _ _ => false

/-- The message, and where to learn more. -/
def text (e : UsageError) : String :=
  "error: " ++ e.message ++ "\n\n" ++ (if e.showsUsage then usageText ++ "\n\n" else "") ++
    "For more information, try '--help'."

end UsageError
end ConstantResolution
