import QueryTuning.Advice.Suggestion
import QueryTuning.Analysis.Pipeline
import QueryTuning.Document
import QueryTuning.Index.Redundant
import QueryTuning.Measure.Metrics

/-!
# The report of an analysis

The document form of everything that an analysis found: issues, plans, indexes,
measurements and suggestions, and all of them together.
-/

set_option autoImplicit false

namespace QueryTuning.Report

def cell : Cell → Document
  | .null => .null
  | .truth b => .truth b
  | .integer n => .integer n
  | .real x => .real x
  | .text s => .text s
  | .moment m => .text (m.text "T")

def texts (xs : List String) : Document := .list (xs.map .text)

def issue (i : Issue) : Document :=
  .fields [("issue_type", .text i.kind.name), ("description", .text i.description),
    ("fragment", .text i.fragment), ("severity", .text i.severity.name)]

def advisory (a : Plan.Advisory) : Document :=
  .fields [("database", .text a.database), ("schema", .text a.schema), ("table", .text a.table),
    ("equality_columns", texts a.equalityColumns),
    ("inequality_columns", texts a.inequalityColumns),
    ("include_columns", texts a.includeColumns),
    ("impact", Document.ofOption .real a.impact)]

def keyColumn (c : Index.KeyColumn) : Document :=
  .fields [("name", .text c.name), ("sort_direction", .text c.direction.word)]

def recommendation (r : Index.Recommendation) : Document :=
  .fields [("database", .text r.database), ("schema", .text r.schema), ("table", .text r.table),
    ("name", .text r.indexName),
    ("key_columns", Document.ofList keyColumn r.keyColumns),
    ("included_columns", texts r.includedColumns),
    ("is_unique", .truth r.isUnique), ("index_kind", .text r.kind.name),
    ("filter_predicate", .text r.filterPredicate),
    ("create_statement", .text r.createStatement),
    ("estimated_impact", .real r.estimatedImpact)]

def redundant (r : Index.Redundant) : Document :=
  .fields [("schema", cell r.schema), ("table", cell r.table), ("index_name", cell r.name),
    ("reason", .text r.reason), ("recommendation", .text r.recommendation),
    ("drop_statement", .text r.dropStatement), ("size_mb", .real r.sizeMb),
    ("usage_count", .integer r.usageCount),
    ("last_used", Document.ofOption (fun m => .text (m.text "T")) r.lastUsed)]

def figures (m : Measure.Metrics Binary64) : List (String × Document) :=
  [("execution_time_ms", .real m.executionTimeMs), ("cpu_time_ms", .real m.cpuTimeMs),
    ("logical_reads", .real m.logicalReads), ("physical_reads", .real m.physicalReads),
    ("rows_returned", .real m.rowsReturned), ("rows_scanned", .real m.rowsScanned),
    ("estimated_plan_cost", .real m.estimatedPlanCost),
    ("is_plan_cached", .truth m.isPlanCached), ("plan_reuse_count", .integer m.planReuseCount)]

def metrics (m : Measure.Metrics Binary64) : Document := .fields (figures m)

def metricsWithPlan (m : Measure.Metrics Binary64) : Document :=
  .fields (figures m ++ [("execution_plan", .text m.executionPlan)])

def comparison (c : Measure.Comparison) : Document :=
  .fields [("original_query", .text c.query), ("optimized_query", .text c.optimizedQuery),
    ("original_metrics", metrics c.baseline), ("optimized_metrics", metrics c.optimized),
    ("execution_time_improvement", .real c.executionTime),
    ("cpu_time_improvement", .real c.cpuTime),
    ("logical_reads_improvement", .real c.logicalReads)]

def suggestion (s : Advice.Suggestion) : Document :=
  .fields [("title", .text s.title), ("description", .text s.description),
    ("original_fragment", .text s.fragment),
    ("suggested_fragment", .text s.suggestedFragment),
    ("priority", .text s.priority.name), ("estimated_impact", .real s.estimatedImpact)]

def findingsFields (f : Analysis.Findings) : List (String × Document) :=
  [("original_query", .text f.query), ("optimized_query", .text f.optimizedQuery),
    ("server_info", .text f.serverInfo), ("issues", Document.ofList issue f.issues),
    ("performance_metrics", Document.ofOption metrics f.metrics),
    ("index_recommendations", Document.ofList recommendation f.recommendations),
    ("redundant_indexes", Document.ofList redundant f.redundant),
    ("suggestions", Document.ofList suggestion f.suggestions),
    ("complexity_rating", .integer f.complexity),
    ("improvement_percentage", .real f.improvement),
    ("estimated_plan_cost", .real f.estimatedPlanCost)]

def findings (f : Analysis.Findings) : Document := .fields (findingsFields f)

end QueryTuning.Report
