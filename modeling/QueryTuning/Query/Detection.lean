import QueryTuning.Failure
import QueryTuning.Pattern.Basic
import QueryTuning.Pattern.Scan
import QueryTuning.Query.Issue
import QueryTuning.Query.Vocabulary
import QueryTuning.Text.Basic
import QueryTuning.Text.Case

/-!
# Finding anti-patterns

A query is brought to its normal form: line comments are taken out first and
block comments second, and then every run of blanks becomes one space and the
ends are trimmed. Literals get no protection: two hyphens inside one start a
comment like any others.

Seven rules look at the normal form, in a fixed order, and each reports at most
one issue. The rules are lexical: no statement has to parse, and the contents
of literals are searched like everything else. A call is reported from its name
to the parenthesis that balances its first one.
-/

set_option autoImplicit false

namespace QueryTuning.Query

open Pattern

def lineComment : Pattern := seq (word "--") (run0 notNewline)

def blockComment : Pattern :=
  sequence [word "/*", few (one fun _ => true), word "*/"]

def withoutComments (text : List Char) : List Char :=
  replaceAll blockComment [] (replaceAll lineComment [] text)

def collapseBlanks (text : List Char) : List Char := replaceAll blanks1 [' '] text

def normalizeText (text : List Char) : List Char :=
  Text.trim (collapseBlanks (withoutComments text))

def normalize (query : String) : String := String.ofList (normalizeText query.toList)

/-- The length of the shortest beginning in which a closing parenthesis brings the
depth back to zero, counted from a given depth. -/
def balancedLength? : (depth : Int) → List Char → Option Nat
  | _, [] => none
  | depth, c :: cs =>
    if c = '(' then (balancedLength? (depth + 1) cs).map (· + 1)
    else if c = ')' then
      if depth = 1 then some 1 else (balancedLength? (depth - 1) cs).map (· + 1)
    else (balancedLength? depth cs).map (· + 1)

/-- The call at the start of a text: up to the balancing parenthesis, or all of the
text without blanks at its ends if there is none. -/
def callExtent (text : List Char) : List Char :=
  match balancedLength? 0 text with
  | some n => text.take n
  | none => Text.trim text

abbrev Rule := List Char → Option Issue

def reportFirst (p : Pattern) (kind : IssueKind) (severity : Severity) (description : String) :
    Rule := fun text =>
  (find? [p] (Cursor.ofText text)).map fun hit =>
    { kind, description, fragment := String.ofList hit.text, severity }

def wildcardRule : Rule :=
  reportFirst selectStar .columnWildcard .medium
    ("SELECT * returns every column, adding I/O and network traffic " ++
      "and defeating covering indexes. List only the columns you need.")

def dirtyReadRule : Rule :=
  reportFirst noLockHint .dirtyRead .medium
    ("The NOLOCK hint allows dirty reads, so rows can be missed or " ++
      "read twice. Use an appropriate isolation level such as " ++
      "READ COMMITTED SNAPSHOT instead.")

def implicitConversionRule : Rule :=
  reportFirst mixedComparison .implicitConversion .major
    ("A string value is compared with a numeric one. The engine " ++
      "converts one side implicitly, which can prevent index seeks.")

def filterFunctionRule : Rule := fun text =>
  (find? [filterOpening, filterFunction, columnArgument] (Cursor.ofText text)).map fun hit =>
    { kind := .nonSargableCondition
      description := String.ofList (Text.upper (hit.part 1)) ++
        "() wraps a column in a filter, " ++
        "which prevents index seeks. Apply the function to the " ++
        "parameter side instead."
      fragment := String.ofList (callExtent (hit.partStart 1).rest)
      severity := .major }

def leadingWildcardRule : Rule :=
  reportFirst leadingWildcard .nonSargableCondition .medium
    ("A LIKE pattern starting with % cannot use an index seek. " ++
      "Consider full-text search or a trailing wildcard.")

def nonSargableRule : Rule := fun text =>
  (filterFunctionRule text).or (leadingWildcardRule text)

def distinctRule : Rule :=
  reportFirst selectDistinct .unnecessaryDistinct .minor
    ("DISTINCT forces a sort or hash over the whole result. Fix the " ++
      "joins or use GROUP BY if duplicates are not expected.")

def cartesianProductRule : Rule := fun text =>
  ((findAll [commaJoin] text).find? fun hit => !explicitJoin.matchesAt hit.stop).map fun hit =>
    { kind := .cartesianProduct
      description := "Tables are listed with commas in FROM. A missing or wrong " ++
        "predicate produces a cartesian product; use explicit JOIN " ++
        "... ON syntax."
      fragment := String.ofList hit.text
      severity := .critical }

def scalarFunctionRule : Rule := fun text =>
  ((findAll projectionParts text).findSome? fun selection =>
    find? [qualifiedCall] (Cursor.ofText (selection.part 1))).map fun hit =>
    { kind := .scalarFunction
      description := "A scalar user-defined function in the SELECT list runs " ++
        "once per row and blocks parallelism. Consider inline " ++
        "logic, an inline table-valued function or a computed column."
      fragment := String.ofList (Text.trim (callExtent hit.start.rest))
      severity := .medium }

def rules : List Rule :=
  [wildcardRule, dirtyReadRule, implicitConversionRule, nonSargableRule, distinctRule,
    cartesianProductRule, scalarFunctionRule]

def issuesIn (normalForm : List Char) : List Issue :=
  rules.filterMap fun rule => rule normalForm

def detect (query : String) : Except InputFault (List Issue) :=
  if isBlankString query then .error .blankQueryText
  else .ok (issuesIn (normalizeText query.toList))

end QueryTuning.Query
