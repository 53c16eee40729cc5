import QueryTuning.Advice.Suggestion
import QueryTuning.Analysis.Options
import QueryTuning.Index.Redundant
import QueryTuning.Index.Survey
import QueryTuning.Measure.Benchmark
import QueryTuning.Measure.Metrics
import QueryTuning.Query.Complexity
import QueryTuning.Query.Detection

/-!
# The stages of an analysis

The stages run in a fixed order within one session. Each is governed by the
options, and the estimated plan is retrieved once for all that need it.
-/

set_option autoImplicit false

namespace QueryTuning.Analysis

structure Findings where
  query : String
  optimizedQuery : String
  serverInfo : String
  issues : List Issue
  metrics : Option (Measure.Metrics Binary64)
  recommendations : List Index.Recommendation
  redundant : List Index.Redundant
  suggestions : List Advice.Suggestion
  complexity : Nat
  /-- The decrease of the execution time in percent, zero if it was not measured. -/
  improvement : Binary64
  estimatedPlanCost : Binary64

def Findings.wasRevised (f : Findings) : Bool :=
  !f.optimizedQuery.isEmpty && f.optimizedQuery != f.query

def serverInfoSql : String :=
  "SELECT SERVERPROPERTY('ProductVersion') AS Version, " ++
  "SERVERPROPERTY('ProductLevel') AS Level, " ++
  "SERVERPROPERTY('Edition') AS Edition"

def describeServer : List Row → String
  | [] => "Unknown"
  | row :: _ =>
    "SQL Server " ++ (row.cellOrNull "Edition").display ++ " " ++
      (row.cellOrNull "Version").display ++ " " ++ (row.cellOrNull "Level").display

variable {ν : Type}

def serverInfo (limit : TimeLimit) : Task ν String := do
  let rows ← Task.bestEffort .serverInfo (.fetchAll serverInfoSql []) limit
  return describeServer (rows.getD [])

def remarkDiscarded : List IssueKind → Task ν Unit
  | [] => return ()
  | kind :: kinds => do
    Task.warn ("Discarded " ++ kind.name ++ " rewrite: result does not parse")
    remarkDiscarded kinds

def reviseFor (dialect : Query.Dialect) (query : String) (issues : List Issue) :
    Task ν String := do
  let revision := Query.revise dialect (issues.map Issue.kind) query
  remarkDiscarded revision.discarded
  return String.ofList revision.text

def compare (baseline optimized : String) (p : Measure.Protocol) :
    Task Binary64 Measure.Comparison := do
  let before ← Measure.benchmark baseline p
  let after ← Measure.benchmark optimized p
  return ⟨baseline, optimized, before, after⟩

namespace Options

def metricsProtocol (o : Options) (limit : TimeLimit) : Measure.Protocol :=
  ⟨o.metricsIterations, o.metricsWarmup, o.collectStatistics, limit⟩

def comparisonProtocol (o : Options) (limit : TimeLimit) : Measure.Protocol :=
  ⟨o.comparisonIterations, o.comparisonWarmup, o.collectStatistics, limit⟩

end Options

def issuesStage (o : Options) (query : String) : Task ν (List Issue) :=
  if o.analyzeSyntax then Task.ofInput (Query.detect query) else return []

def metricsStage (o : Options) (query : String) (limit : TimeLimit) :
    Task Binary64 (Option (Measure.Metrics Binary64)) :=
  if o.collectMetrics then do
    return some (← Measure.benchmark query (o.metricsProtocol limit))
  else return none

def planStage (o : Options) (query : String) (limit : TimeLimit) : Task ν Plan.Extraction :=
  if o.analyzePlan || o.analyzeIndexes then Index.estimatedPlan query limit
  else return Plan.Extraction.empty .estimated

def redundantStage (o : Options) (query : String) (limit : TimeLimit) :
    Task ν (List Index.Redundant) :=
  if o.analyzeIndexes then Index.redundantFor query limit else return []

def improvementStage (o : Options) (query optimized : String) (limit : TimeLimit) :
    Task Binary64 Binary64 :=
  if optimized != query && o.collectMetrics then do
    return (← compare query optimized (o.comparisonProtocol limit)).executionTime
  else return .zero

def revisionStage (dialect : Query.Dialect) (o : Options) (query : String) (issues : List Issue)
    (limit : TimeLimit) : Task Binary64 (String × Binary64) :=
  if o.attemptRevision then do
    let issues ← if o.analyzeSyntax then pure issues else Task.ofInput (Query.detect query)
    let optimized ← reviseFor dialect query issues
    let improvement ← improvementStage o query optimized limit
    return (optimized, improvement)
  else return (query, .zero)

def pipeline (dialect : Query.Dialect) (o : Options) (query : String) (limit : TimeLimit) :
    Task Binary64 Findings := do
  let serverInfo ← serverInfo limit
  let issues ← issuesStage o query
  let metrics ← metricsStage o query limit
  let extraction ← planStage o query limit
  let recommendations := if o.analyzeIndexes then Index.recommendations extraction else []
  let redundant ← redundantStage o query limit
  let (optimizedQuery, improvement) ← revisionStage dialect o query issues limit
  return {
    query := query
    optimizedQuery, serverInfo, issues, metrics, recommendations, redundant
    suggestions := Advice.suggestions issues recommendations (some o.maxRecommendations)
    complexity := Query.complexity query issues.length
    improvement
    estimatedPlanCost := extraction.estimatedCost }

end QueryTuning.Analysis
