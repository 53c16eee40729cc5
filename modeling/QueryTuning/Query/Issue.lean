/-!
# Issues of a query

The kinds of problem an analysis can report and how severe a finding is.
-/

set_option autoImplicit false

namespace QueryTuning

inductive IssueKind where
  | cartesianProduct
  | columnWildcard
  | implicitConversion
  | missingIndex
  | nonSargableCondition
  | parameterSniffing
  | suboptimalJoin
  | tableScan
  | dirtyRead
  | unnecessaryDistinct
  | scalarFunction
  deriving DecidableEq, Repr

namespace IssueKind

def all : List IssueKind :=
  [cartesianProduct, columnWildcard, implicitConversion, missingIndex, nonSargableCondition,
    parameterSniffing, suboptimalJoin, tableScan, dirtyRead, unnecessaryDistinct, scalarFunction]

def name : IssueKind → String
  | cartesianProduct => "cartesian_product"
  | columnWildcard => "column_wildcard"
  | implicitConversion => "implicit_conversion"
  | missingIndex => "missing_index"
  | nonSargableCondition => "non_sargable_condition"
  | parameterSniffing => "parameter_sniffing"
  | suboptimalJoin => "suboptimal_join"
  | tableScan => "table_scan"
  | dirtyRead => "dirty_read"
  | unnecessaryDistinct => "unnecessary_distinct"
  | scalarFunction => "scalar_function"

def ofName? (s : String) : Option IssueKind := all.find? fun kind => kind.name == s

end IssueKind

inductive Severity where
  | critical
  | major
  | medium
  | minor
  | info
  deriving DecidableEq, Repr

namespace Severity

def all : List Severity := [critical, major, medium, minor, info]

def name : Severity → String
  | critical => "critical"
  | major => "major"
  | medium => "medium"
  | minor => "minor"
  | info => "info"

def ofName? (s : String) : Option Severity := all.find? fun severity => severity.name == s

end Severity

structure Issue where
  kind : IssueKind
  description : String
  fragment : String
  severity : Severity
  deriving DecidableEq, Repr

end QueryTuning
