import QueryTuning.Document
import QueryTuning.Settings.Basic

/-!
# The report of settings

The document form of settings and of the options that follow from them.
-/

set_option autoImplicit false

namespace QueryTuning.Report

def options (o : Analysis.Options) : Document :=
  .fields [("analyze_plan", .truth o.analyzePlan), ("analyze_indexes", .truth o.analyzeIndexes),
    ("analyze_syntax", .truth o.analyzeSyntax), ("collect_metrics", .truth o.collectMetrics),
    ("collect_statistics", .truth o.collectStatistics),
    ("attempt_rewrite", .truth o.attemptRevision),
    ("max_execution_time_ms", .integer o.maxExecutionTimeMs),
    ("max_recommendations", .integer o.maxRecommendations),
    ("metrics_iterations", .integer o.metricsIterations),
    ("metrics_warmup", .integer o.metricsWarmup),
    ("comparison_iterations", .integer o.comparisonIterations),
    ("comparison_warmup", .integer o.comparisonWarmup)]

def settingsFields (s : Settings) : List (String × Document) :=
  [("connection_string", .text s.connectionString),
    ("command_timeout_seconds", .real s.commandTimeoutSeconds), ("log_level", .text s.logLevel),
    ("benchmark_iterations", .integer s.benchmarkIterations),
    ("warmup_iterations", .integer s.warmupIterations),
    ("max_recommendations", .integer s.maxRecommendations), ("sql_dialect", .text s.sqlDialect)]

end QueryTuning.Report
