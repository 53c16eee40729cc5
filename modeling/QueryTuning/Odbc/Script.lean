import QueryTuning.Odbc.Driver

/-!
# Scripted drivers

A script knows some statements by their exact text, with the result sets of each
and perhaps a failure at one kind of request. Other statements have no results.
-/

set_option autoImplicit false

namespace QueryTuning.Odbc

inductive FailurePoint where
  | executing
  | fetching
  | goingOn
  deriving DecidableEq, Repr

structure Statement where
  sql : String
  sets : List (Option (List String) × List (List Cell))
  failure : Option (FailurePoint × Failure)

structure Script where
  statements : List Statement
  connectFailure : Option Failure
  closeFailure : Option Failure
  cancelFailure : Option Failure

namespace Statement

def failureAt (s : Statement) (point : FailurePoint) : Option Failure :=
  match s.failure with
  | some (p, failure) => if p = point then some failure else none
  | none => none

def resultSet (s : Statement) (columns : Option (List String)) (rows : List (List Cell)) :
    ResultSet :=
  ⟨columns, match s.failureAt .fetching with | none => .ok rows | some failure => .error failure⟩

def resultsFrom (s : Statement) : List (Option (List String) × List (List Cell)) → Results
  | [] => .last (s.resultSet none []) (s.failureAt .goingOn)
  | [(columns, rows)] => .last (s.resultSet columns rows) (s.failureAt .goingOn)
  | (columns, rows) :: sets =>
    match s.failureAt .goingOn with
    | some failure => .last (s.resultSet columns rows) (some failure)
    | none => .more (s.resultSet columns rows) (s.resultsFrom sets)

def results (s : Statement) : Except Failure Results :=
  match s.failureAt .executing with
  | some failure => .error failure
  | none => .ok (s.resultsFrom s.sets)

end Statement

def outcome (failure : Option Failure) : Except Failure Unit :=
  match failure with
  | some failure => .error failure
  | none => .ok ()

def noResults : Results := .last ⟨none, .ok []⟩ none

def Script.lookUp (script : Script) (sql : String) : Except Failure Results :=
  match script.statements.find? fun s => s.sql == sql with
  | some s => s.results
  | none => .ok noResults

def Script.driver (script : Script) : Driver Unit where
  connect _ _ := (outcome script.connectFailure, ())
  execute _ sql _ := (script.lookUp sql, ())
  cancel _ := (outcome script.cancelFailure, ())
  closeConnection _ := (outcome script.closeFailure, ())

end QueryTuning.Odbc
