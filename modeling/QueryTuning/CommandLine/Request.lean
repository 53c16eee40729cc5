import QueryTuning.Analysis.Options
import QueryTuning.CommandLine.Arguments
import QueryTuning.Number.Literal

/-!
# Requests

The commands with their options, the values that each option takes, and the
request that a command line makes.
-/

set_option autoImplicit false

namespace QueryTuning.CommandLine

inductive Entry where
  | file (text : String)
  | directory
  | absent

abbrev Files := String → Entry

inductive Check where
  | anyText
  | existingFile
  | oneOf (words : List String)
  | atLeast (minimum : Int)

def OptionName.check : OptionName → Check
  | queryFile | baseline | optimized => .existingFile
  | format => .oneOf ["text", "json"]
  | maxRecommendations | iterations => .atLeast 1
  | timeoutMs | warmup => .atLeast 0
  | _ => .anyText

def Check.accepts (files : Files) (value : String) : Check → Bool
  | anyText => true
  | existingFile =>
    match files value with
    | .file _ => true
    | _ => false
  | oneOf words => words.contains value
  | atLeast minimum =>
    match Literal.integer? value.toList with
    | some n => minimum ≤ n
    | none => false

inductive CommandName where
  | detect
  | revise
  | analyze
  | benchmark
  | compare
  | indexes
  | config
  deriving DecidableEq, Repr

namespace CommandName

def all : List CommandName := [detect, revise, analyze, benchmark, compare, indexes, config]

def name : CommandName → String
  | detect => "detect"
  | revise => "rewrite"
  | analyze => "analyze"
  | benchmark => "benchmark"
  | compare => "compare"
  | indexes => "indexes"
  | config => "config"

def ofName? (s : String) : Option CommandName := all.find? fun c => c.name == s

def helpSpellings : List Spelling := switching .help true ["--help"]

def querySpellings : List Spelling :=
  taking .query ["--query", "-q"] ++ taking .queryFile ["--query-file", "-f"]

def connectionSpellings : List Spelling := taking .connection ["--connection-string", "-c"]

def iterationSpellings : List Spelling := taking .iterations ["--iterations", "-n"]

def spellings : CommandName → List Spelling
  | detect => querySpellings ++ taking .format ["--format"] ++ helpSpellings
  | revise =>
    querySpellings ++ switching .pretty true ["--pretty"] ++
      switching .pretty false ["--no-pretty"] ++ helpSpellings
  | analyze =>
    querySpellings ++ connectionSpellings ++ switching .noSyntax true ["--no-syntax"] ++
      switching .noMetrics true ["--no-metrics"] ++ switching .noIndexes true ["--no-indexes"] ++
      switching .noPlan true ["--no-plan"] ++ switching .noRevision true ["--no-rewrite"] ++
      taking .maxRecommendations ["--max-recommendations"] ++
      taking .timeoutMs ["--timeout-ms"] ++ taking .output ["--output"] ++ helpSpellings
  | benchmark =>
    querySpellings ++ connectionSpellings ++ iterationSpellings ++
      taking .warmup ["--warmup"] ++ helpSpellings
  | compare =>
    taking .baseline ["--original"] ++ taking .optimized ["--optimized"] ++
      connectionSpellings ++ iterationSpellings ++ helpSpellings
  | indexes => querySpellings ++ connectionSpellings ++ helpSpellings
  | config => helpSpellings

def required : CommandName → List OptionName
  | compare => [.baseline, .optimized]
  | _ => []

end CommandName

def generalSpellings : List Spelling :=
  switching .verbose true ["--verbose", "-v"] ++ switching .version true ["--version"] ++
    CommandName.helpSpellings

structure QuerySource where
  text : Option String
  file : Option String
  deriving DecidableEq, Repr

structure AnalysisRequest where
  source : QuerySource
  connection : Option String
  analyzeSyntax : Bool
  collectMetrics : Bool
  analyzeIndexes : Bool
  analyzePlan : Bool
  attemptRevision : Bool
  maxRecommendations : Option Int
  timeoutMs : Option Int
  output : Option String
  deriving DecidableEq, Repr

inductive Request where
  | detect (source : QuerySource) (asData : Bool)
  | revise (source : QuerySource) (pretty : Bool)
  | analyze (request : AnalysisRequest)
  | benchmark (source : QuerySource) (connection : Option String) (iterations warmup : Option Int)
  | compare (baseline optimized : String) (connection : Option String) (iterations : Option Int)
  | indexes (source : QuerySource) (connection : Option String)
  | config
  deriving DecidableEq, Repr

def refusedOption? (files : Files) (settings : List Setting) : Option OptionName :=
  (settings.map Prod.fst).find? fun option =>
    match valueOf? settings option with
    | some value => !option.check.accepts files value
    | none => false

def missingOption? (command : CommandName) (settings : List Setting) : Option OptionName :=
  command.required.find? fun option => (lastGiven settings option).isNone

def integerOf? (settings : List Setting) (option : OptionName) : Option Int :=
  (valueOf? settings option).bind fun value => Literal.integer? value.toList

def sourceOf (settings : List Setting) : QuerySource :=
  ⟨valueOf? settings .query, valueOf? settings .queryFile⟩

def requestOf (command : CommandName) (settings : List Setting) : Request :=
  let source := sourceOf settings
  let connection := valueOf? settings .connection
  let without (option : OptionName) : Bool := !isSwitched settings option false
  match command with
  | .detect => .detect source (valueOf? settings .format == some "json")
  | .revise => .revise source (isSwitched settings .pretty true)
  | .analyze =>
    .analyze {
      source, connection
      analyzeSyntax := without .noSyntax
      collectMetrics := without .noMetrics
      analyzeIndexes := without .noIndexes
      analyzePlan := without .noPlan
      attemptRevision := without .noRevision
      maxRecommendations := integerOf? settings .maxRecommendations
      timeoutMs := integerOf? settings .timeoutMs
      output := valueOf? settings .output }
  | .benchmark =>
    .benchmark source connection (integerOf? settings .iterations) (integerOf? settings .warmup)
  | .compare =>
    .compare ((valueOf? settings .baseline).getD "") ((valueOf? settings .optimized).getD "")
      connection (integerOf? settings .iterations)
  | .indexes => .indexes source connection
  | .config => .config

def readCommand (files : Files) (command : CommandName) (arguments : List String) :
    Except UsageFault (Option Request) := do
  let r ← readArguments command.spellings true arguments
  if isSwitched r.settings .help false then return none
  match refusedOption? files r.settings, missingOption? command r.settings, r.others with
  | some option, _, _ => .error (.badParameter option)
  | none, some option, _ => .error (.missingParameter option)
  | none, none, [] => return some (requestOf command r.settings)
  | none, none, others => .error (.extraArguments others)

inductive Invocation where
  | information
  | command (verbose : Bool) (name : CommandName) (arguments : List String)

def asksForInformation (settings : List Setting) : Bool :=
  isSwitched settings .help false || isSwitched settings .version false

def readInvocation (arguments : List String) : Except UsageFault Invocation := do
  if arguments.isEmpty then .error .noArguments
  let r ← readArguments generalSpellings false arguments
  if asksForInformation r.settings then return .information
  match r.others with
  | [] => .error .missingCommand
  | name :: others =>
    match CommandName.ofName? name with
    | some command => return .command (isSwitched r.settings .verbose false) command others
    | none => do
      let again ← readArguments generalSpellings false (name :: others)
      if asksForInformation again.settings then return .information
      .error (.noSuchCommand name)

end QueryTuning.CommandLine
