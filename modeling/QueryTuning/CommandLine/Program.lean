import QueryTuning.Analysis.Analyzer
import QueryTuning.CommandLine.Display
import QueryTuning.CommandLine.Request
import QueryTuning.Session.Run
import QueryTuning.Settings.Sources
import QueryTuning.Text.Basic

/-!
# The program

A command reads its query, does its work in the given surroundings and shows
what came of it. A failure of the work is shown and logged, and ends the command
with a status of its own; faults in the command line have another one.
-/

set_option autoImplicit false

namespace QueryTuning.CommandLine

structure Shell where
  environment : List (String × String)
  files : Files
  standardInput : String
  isTerminal : Bool
  dialect : Query.Dialect

inductive FileFault where
  | notFound
  | isDirectory
  | notDirectory
  deriving DecidableEq, Repr

def FileFault.message : FileFault → String
  | notFound => "No such file or directory"
  | isDirectory => "Is a directory"
  | notDirectory => "Not a directory"

inductive Problem where
  | settings (errors : List SettingError)
  | failure (f : Failure)
  | file (fault : FileFault)
  /-- A value that cannot stand in a table. -/
  | unshowable
  /-- A value that cannot stand in a saved report. -/
  | unsaveable

def Problem.message : Problem → String
  | settings errors =>
    "\n".intercalate (errors.map fun e => e.name ++ ": " ++ e.fault.code)
  | failure f => f.message
  | file fault => fault.message
  | unshowable => "A value cannot be shown in a table."
  | unsaveable => "A value cannot be saved."

inductive Conclusion where
  | done
  | failed
  | misused (fault : UsageFault)
  | broken (problem : Problem)

def Conclusion.status : Conclusion → Nat
  | done => 0
  | failed => 1
  | misused _ => 2
  | broken _ => 1

def Conclusion.message? : Conclusion → Option String
  | done | failed => none
  | misused fault => some fault.message
  | broken problem => some problem.message

structure Progress (σ : Type) where
  world : World σ
  logLevel : Option Nat
  shown : List Shown
  events : List Event
  saved : Option (String × Analysis.Findings)

abbrev Command (σ : Type) := ExceptT Conclusion (StateM (Progress σ))

variable {σ α : Type}

namespace Command

def display (items : List Shown) : Command σ Unit :=
  modify fun p => { p with shown := p.shown ++ items }

def stop (conclusion : Conclusion) : Command σ α := throw conclusion

def fail (what message : String) : Command σ α := do
  display [errorLine message]
  modify fun p => { p with events := p.events ++ [.remarked ⟨.error, what⟩] }
  stop .failed

def perform (s : Surroundings σ Binary64) (task : Task Binary64 α) :
    Command σ (Except Failure α) := do
  let p ← get
  let r := task.runIn s p.world
  set { p with world := r.world, events := p.events ++ r.events }
  return r.result

def attempt (s : Surroundings σ Binary64) (what : String) (task : Task Binary64 α) :
    Command σ α := do
  match ← perform s task with
  | .ok a => return a
  | .error .cancelled => stop (.broken (.failure .cancelled))
  | .error failure => fail what failure.message

def loadSettings (shell : Shell) : Except (List SettingError) Settings :=
  Settings.load {
    environment := shell.environment
    file := match shell.files ".env" with
      | .file text => some text
      | _ => none }

def settings (shell : Shell) : Command σ Settings :=
  match loadSettings shell with
  | .ok s => return s
  | .error errors => stop (.broken (.settings errors))

def settingsFor (shell : Shell) (what : String) : Command σ Settings :=
  match loadSettings shell with
  | .ok s => return s
  | .error errors =>
    fail what (toString errors.length ++
      (if errors.length = 1 then " validation error" else " validation errors") ++ " for Settings")

def fileText (shell : Shell) (path : String) : String :=
  match shell.files path with
  | .file text => String.ofList (Text.unifyNewlines text.toList)
  | _ => ""

def queryText (shell : Shell) (source : QuerySource) : Command σ String :=
  let given := source.text.getD ""
  if !given.isEmpty then return given
  else
    match source.file with
    | some path => return fileText shell path
    | none =>
      if shell.isTerminal then stop (.misused .noQuery)
      else return String.ofList (Text.unifyNewlines shell.standardInput.toList)

def readConnection (shell : Shell) (given : Option String) : Command σ String := do
  let given := given.getD ""
  if !given.isEmpty then return given
  else
    match (← settings shell).connection? with
    | some connection => return connection
    | none => do
      display [notConnectedLine]
      stop .failed

def showIndexes (recommendations : List Index.Recommendation)
    (redundant : List Index.Redundant) : Command σ Unit := do
  display (recommendationsDisplay recommendations)
  if canShow redundant then display (redundantDisplay redundant) else stop (.broken .unshowable)

def detect (s : Surroundings σ Binary64) (shell : Shell) (source : QuerySource) (asData : Bool) :
    Command σ Unit := do
  let query ← queryText shell source
  let issues ← attempt s "Detection failed" (Task.ofInput (Query.detect query))
  if asData then display [.data (Document.ofList Report.issue issues)]
  else display [issuesDisplay issues]

def revise (s : Surroundings σ Binary64) (shell : Shell) (source : QuerySource) (pretty : Bool) :
    Command σ Unit := do
  let query ← queryText shell source
  let settings ← settings shell
  let optimized ← attempt s "Rewrite failed"
    (Analyzer.revise ⟨settings, shell.dialect⟩ query)
  if optimized = query then display [unchangedLine]
  display [.code (if pretty then Query.format shell.dialect optimized else optimized)]

def pathParts (path : String) : List String :=
  (path.splitOn "/").filter fun part => !part.isEmpty && part != "."

def plainPath (path : String) : String :=
  let root := if path.toList.head? = some '/' then "/" else ""
  match pathParts path with
  | [] => if root.isEmpty then "." else root
  | parts => root ++ "/".intercalate parts

def parentPath (path : String) : String :=
  let root := if path.toList.head? = some '/' then "/" else ""
  match (pathParts path).dropLast with
  | [] => if root.isEmpty then "." else root
  | parts => root ++ "/".intercalate parts

def writeFault? (files : Files) (path : String) : Option FileFault :=
  match files path with
  | .directory => some .isDirectory
  | .file _ => none
  | .absent =>
    match files (parentPath path) with
    | .directory => none
    | .file _ => some .notDirectory
    | .absent => some .notFound

def canSave (r : Index.Redundant) : Bool :=
  r.schema.sort != .moment && r.table.sort != .moment

def save (shell : Shell) (path : String) (f : Analysis.Findings) : Command σ Unit := do
  let path := plainPath path
  match writeFault? shell.files path with
  | some fault => stop (.broken (.file fault))
  | none =>
    if f.redundant.all canSave then
      modify fun p => { p with saved := some (path, f) }
      display [savedLine path]
    else stop (.broken .unsaveable)

def optionsFor (r : AnalysisRequest) (defaults : Analysis.Options) : Analysis.Options :=
  { defaults with
    analyzeSyntax := r.analyzeSyntax
    analyzePlan := r.analyzePlan
    analyzeIndexes := r.analyzeIndexes
    collectMetrics := r.collectMetrics
    attemptRevision := r.attemptRevision
    maxExecutionTimeMs := r.timeoutMs.getD defaults.maxExecutionTimeMs
    maxRecommendations := r.maxRecommendations.getD defaults.maxRecommendations }

def analyze (s : Surroundings σ Binary64) (shell : Shell) (r : AnalysisRequest) :
    Command σ Unit := do
  let query ← queryText shell r.source
  let connection ← readConnection shell r.connection
  let settings ← settings shell
  match settings.analysisOptions with
  | .error fault => stop (.broken (.failure (.value fault)))
  | .ok defaults => do
    display [analysisPanel]
    let findings ← attempt s "Analysis failed"
      (Analyzer.analyze ⟨settings, shell.dialect⟩ query (some connection)
        (some (optionsFor r defaults)))
    display (findingsDisplay findings)
    showIndexes findings.recommendations findings.redundant
    display (revisionDisplay findings)
    if let some path := r.output then save shell path findings
    display [completeLine]

def benchmark (s : Surroundings σ Binary64) (shell : Shell) (source : QuerySource)
    (connection : Option String) (iterations warmup : Option Int) : Command σ Unit := do
  let query ← queryText shell source
  let connection ← readConnection shell connection
  let settings ← settingsFor shell "Benchmark failed"
  let metrics ← attempt s "Benchmark failed"
    (Analyzer.benchmark ⟨settings, shell.dialect⟩ query (some connection) iterations warmup)
  display [metricsDisplay metrics]

def compare (s : Surroundings σ Binary64) (shell : Shell) (baseline optimized : String)
    (connection : Option String) (iterations : Option Int) : Command σ Unit := do
  let connection ← readConnection shell connection
  let settings ← settingsFor shell "Comparison failed"
  let comparison ← attempt s "Comparison failed"
    (Analyzer.compare ⟨settings, shell.dialect⟩ (fileText shell baseline)
      (fileText shell optimized) (some connection) iterations none)
  display [comparisonDisplay comparison]

def indexes (s : Surroundings σ Binary64) (shell : Shell) (source : QuerySource)
    (connection : Option String) : Command σ Unit := do
  let query ← queryText shell source
  let connection ← readConnection shell connection
  let settings ← settingsFor shell "Index analysis failed"
  let (recommendations, redundant) ← attempt s "Index analysis failed"
    (Analyzer.indexes ⟨settings, shell.dialect⟩ query (some connection))
  showIndexes recommendations redundant

def config (shell : Shell) : Command σ Unit := do
  display (settingsDisplay (← settings shell))

def handle (s : Surroundings σ Binary64) (shell : Shell) : Request → Command σ Unit
  | .detect source asData => detect s shell source asData
  | .revise source pretty => revise s shell source pretty
  | .analyze request => analyze s shell request
  | .benchmark source connection iterations warmup =>
    benchmark s shell source connection iterations warmup
  | .compare baseline optimized connection iterations =>
    compare s shell baseline optimized connection iterations
  | .indexes source connection => indexes s shell source connection
  | .config => config shell

def levelNumber (name : String) : Nat :=
  match upperCase name with
  | "CRITICAL" | "FATAL" => 50
  | "ERROR" => 40
  | "WARNING" | "WARN" => 30
  | "DEBUG" => 10
  | "NOTSET" => 0
  | _ => 20

def chooseLogLevel (shell : Shell) (verbose : Bool) : Command σ Unit := do
  let level ← if verbose then pure 10 else do
    let settings ← settings shell
    pure (levelNumber settings.logLevel)
  modify fun p => { p with logLevel := some level }

def run (s : Surroundings σ Binary64) (shell : Shell) (arguments : List String) :
    Command σ Unit := do
  match readInvocation arguments with
  | .error fault => stop (.misused fault)
  | .ok .information => return ()
  | .ok (.command verbose command arguments) => do
    chooseLogLevel shell verbose
    match readCommand shell.files command arguments with
    | .error fault => stop (.misused fault)
    | .ok none => return ()
    | .ok (some request) => handle s shell request

end Command

structure Result (σ : Type) where
  conclusion : Conclusion
  progress : Progress σ

def execute (s : Surroundings σ Binary64) (state : σ) (shell : Shell) (arguments : List String) :
    Result σ :=
  let start : Progress σ := ⟨World.start state 0 none, none, [], [], none⟩
  let (result, progress) := StateT.run (ExceptT.run (Command.run s shell arguments)) start
  match result with
  | .ok _ => ⟨.done, progress⟩
  | .error conclusion => ⟨conclusion, progress⟩

def valuesIn (argument : String) : List String :=
  [argument, String.ofList ((argument.toList.dropWhile (· != '=')).drop 1),
    String.ofList (argument.toList.drop 2)]

def pathsIn (arguments : List String) : List String :=
  ".env" :: (arguments.flatMap valuesIn).flatMap fun value =>
    [value, Command.plainPath value, Command.parentPath value]

def readsStandardInput (files : Files) (arguments : List String) : Bool :=
  let fromInput (source : QuerySource) : Bool := (source.text.getD "").isEmpty && source.file.isNone
  match readInvocation arguments with
  | .ok (.command _ command arguments) =>
    match readCommand files command arguments with
    | .ok (some (.detect source _)) | .ok (some (.revise source _))
    | .ok (some (.benchmark source ..)) | .ok (some (.indexes source _)) => fromInput source
    | .ok (some (.analyze request)) => fromInput request.source
    | _ => false
  | _ => false

end QueryTuning.CommandLine
