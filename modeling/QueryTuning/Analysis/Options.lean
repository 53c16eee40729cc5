import QueryTuning.Failure

/-!
# Options of an analysis

Which stages run and with which limits, and the limits that are refused.
-/

set_option autoImplicit false

namespace QueryTuning.Analysis

structure Options where
  analyzePlan : Bool := true
  analyzeIndexes : Bool := true
  analyzeSyntax : Bool := true
  collectMetrics : Bool := true
  collectStatistics : Bool := true
  attemptRevision : Bool := true
  /-- For each round trip; zero means no limit. -/
  maxExecutionTimeMs : Int := 30000
  maxRecommendations : Int := 10
  metricsIterations : Int := 1
  metricsWarmup : Int := 0
  comparisonIterations : Int := 3
  comparisonWarmup : Int := 1
  deriving DecidableEq, Repr

def Options.validate (o : Options) : Except InputFault Unit :=
  if o.maxRecommendations < 1 then .error .maxRecommendations
  else if o.maxExecutionTimeMs < 0 then .error .negativeTimeLimit
  else if o.metricsIterations < 1 ∨ o.comparisonIterations < 1 then .error .iterationCounts
  else if o.metricsWarmup < 0 ∨ o.comparisonWarmup < 0 then .error .warmupCounts
  else .ok ()

end QueryTuning.Analysis
