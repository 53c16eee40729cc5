import QueryTuning.Index.Recommendation
import QueryTuning.Number.Digits
import QueryTuning.Query.Issue
import QueryTuning.Query.Revision

/-!
# Suggestions

Issues and recommended indexes as suggestions to the user, ordered by estimated
impact. Suggestions of equal impact keep their order, issues before indexes.
-/

set_option autoImplicit false

namespace QueryTuning.Advice

inductive Priority where
  | critical
  | high
  | medium
  | low
  deriving DecidableEq, Repr

def Priority.name : Priority → String
  | critical => "critical"
  | high => "high"
  | medium => "medium"
  | low => "low"

structure Suggestion where
  title : String
  description : String
  fragment : String
  suggestedFragment : String
  priority : Priority
  estimatedImpact : Binary64
  deriving DecidableEq

def priorityOf (impact : Binary64) : Priority :=
  if (Binary64.finite 70).le impact then .critical
  else if (Binary64.finite 40).le impact then .high
  else if (Binary64.finite 20).le impact then .medium
  else .low

def severityPriority : Severity → Priority
  | .critical => .critical
  | .major => .high
  | .medium => .medium
  | .minor => .low
  | .info => .low

def issueTitle : IssueKind → String
  | .cartesianProduct => "Avoid cartesian product"
  | .columnWildcard => "Avoid SELECT *"
  | .implicitConversion => "Avoid implicit type conversion"
  | .missingIndex => "Add missing index"
  | .nonSargableCondition => "Use SARGable conditions"
  | .parameterSniffing => "Handle parameter sniffing"
  | .suboptimalJoin => "Optimize join strategy"
  | .tableScan => "Avoid table scans"
  | .dirtyRead => "Avoid NOLOCK dirty reads"
  | .unnecessaryDistinct => "Avoid unnecessary DISTINCT"
  | .scalarFunction => "Avoid scalar functions"

def issueImpact : IssueKind → Nat
  | .cartesianProduct => 80
  | .columnWildcard => 30
  | .implicitConversion => 60
  | .missingIndex => 70
  | .nonSargableCondition => 50
  | .parameterSniffing => 40
  | .suboptimalJoin => 45
  | .tableScan => 65
  | .dirtyRead => 65
  | .unnecessaryDistinct => 25
  | .scalarFunction => 55

def ofIssue (issue : Issue) : Suggestion where
  title := issueTitle issue.kind
  description := issue.description
  fragment := issue.fragment
  suggestedFragment := Query.reviseFragment issue
  priority := severityPriority issue.severity
  estimatedImpact := .finite (issueImpact issue.kind)

def ofRecommendation (r : Index.Recommendation) : Suggestion where
  title := "Create index on " ++ r.table
  description := "Creating an index on " ++
    ", ".intercalate (r.keyColumns.map Index.KeyColumn.name) ++
    " could improve query performance " ++
    "by approximately " ++ r.estimatedImpact.fixed 1 ++ "%."
  fragment := ""
  suggestedFragment := r.createStatement
  priority := priorityOf r.estimatedImpact
  estimatedImpact := r.estimatedImpact

def ranked (suggestions : List Suggestion) : List Suggestion :=
  suggestions.mergeSort fun a b => !a.estimatedImpact.lt b.estimatedImpact

def takeLimit {α : Type} (limit : Option Int) (xs : List α) : List α :=
  match limit with
  | none => xs
  | some n => if 0 ≤ n then xs.take n.toNat else xs.take (xs.length - n.natAbs)

def rank (limit : Option Int) (suggestions : List Suggestion) : List Suggestion :=
  takeLimit limit (ranked suggestions)

def unranked (issues : List Issue) (recommendations : List Index.Recommendation) :
    List Suggestion :=
  issues.map ofIssue ++ recommendations.map ofRecommendation

def suggestions (issues : List Issue) (recommendations : List Index.Recommendation)
    (limit : Option Int) : List Suggestion :=
  rank limit (unranked issues recommendations)

end QueryTuning.Advice
