import QueryTuning.Analysis.Pipeline
import QueryTuning.Settings.Basic

/-!
# The analyzer

The services for one query or two. Each but the revision of a text works in a
session of its own, and input is checked before the session is opened.
-/

set_option autoImplicit false

namespace QueryTuning

structure Analyzer where
  settings : Settings
  dialect : Query.Dialect

namespace Analyzer

variable {ν : Type}

def acceptQuery (query name : String) : Except InputFault Unit :=
  if isBlankString query then .error (.blankQuery name) else .ok ()

def acceptCounts (iterations warmup : Int) : Except InputFault Unit :=
  if iterations < 1 ∨ warmup < 0 then .error .counts else .ok ()

def connectionFor (a : Analyzer) (given : Option String) : Except InputFault String :=
  let connection := match given with
    | some connection => if connection.isEmpty then a.settings.connectionString else connection
    | none => a.settings.connectionString
  if isBlankString connection then .error .noConnection else .ok connection

def defaultLimit (a : Analyzer) : Except ValueFault TimeLimit := do
  TimeLimit.ofMilliseconds (← a.settings.commandTimeoutMs)

def analyze (a : Analyzer) (query : String) (connection : Option String)
    (options : Option Analysis.Options) : Task Binary64 Analysis.Findings := do
  let options ← match options with
    | some options => pure options
    | none => Task.ofValue a.settings.analysisOptions
  Task.ofInput (acceptQuery query "query")
  Task.ofInput options.validate
  let connection ← Task.ofInput (a.connectionFor connection)
  let limit ← Task.ofValue (TimeLimit.ofMilliseconds options.maxExecutionTimeMs)
  Task.reporting
    (Task.inSession connection limit (Analysis.pipeline a.dialect options query limit))
    "Analysis cancelled" "Analysis failed: "

def revise (a : Analyzer) (query : String) : Task ν String := do
  Task.ofInput (acceptQuery query "query")
  let issues ← Task.ofInput (Query.detect query)
  Analysis.reviseFor a.dialect query issues

def protocol (a : Analyzer) (iterations warmup : Option Int) (limit : TimeLimit) :
    Measure.Protocol :=
  { iterations := iterations.getD a.settings.benchmarkIterations
    warmup := warmup.getD a.settings.warmupIterations
    collectStatistics := true
    limit }

def checkCounts (a : Analyzer) (iterations warmup : Option Int) : Except InputFault Unit :=
  acceptCounts (iterations.getD a.settings.benchmarkIterations)
    (warmup.getD a.settings.warmupIterations)

def benchmark (a : Analyzer) (query : String) (connection : Option String)
    (iterations warmup : Option Int) : Task Binary64 (Measure.Metrics Binary64) := do
  Task.ofInput (acceptQuery query "query")
  Task.ofInput (a.checkCounts iterations warmup)
  let connection ← Task.ofInput (a.connectionFor connection)
  let limit ← Task.ofValue a.defaultLimit
  Task.inSession connection limit
    (Measure.benchmark query (a.protocol iterations warmup limit))

def compare (a : Analyzer) (baseline optimized : String) (connection : Option String)
    (iterations warmup : Option Int) : Task Binary64 Measure.Comparison := do
  Task.ofInput (acceptQuery baseline "original query")
  Task.ofInput (acceptQuery optimized "optimized query")
  Task.ofInput (a.checkCounts iterations warmup)
  let connection ← Task.ofInput (a.connectionFor connection)
  let limit ← Task.ofValue a.defaultLimit
  Task.inSession connection limit
    (Analysis.compare baseline optimized (a.protocol iterations warmup limit))

def indexes (a : Analyzer) (query : String) (connection : Option String) :
    Task ν (List Index.Recommendation × List Index.Redundant) := do
  Task.ofInput (acceptQuery query "query")
  let connection ← Task.ofInput (a.connectionFor connection)
  let limit ← Task.ofValue a.defaultLimit
  Task.inSession connection limit do
    let recommendations ← Index.recommendFor query limit
    let redundant ← Index.redundantFor query limit
    return (recommendations, redundant)

end Analyzer

end QueryTuning
