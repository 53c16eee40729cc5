import QueryTuning.Cell
import QueryTuning.Plan.Advisory
import QueryTuning.Session.Failure

/-!
# Calls to a database

What an analysis may ask of a database, and the sort of answer to each call.
-/

set_option autoImplicit false

namespace QueryTuning

inductive Call where
  | openSession (connection : String)
  /-- Runs a statement and asks for the rows of its first result. -/
  | fetchAll (sql : String) (parameters : List Cell)
  /-- Runs a statement without asking for a result. -/
  | execute (sql : String)
  /-- Asks for the plan document of a statement, if there is one. -/
  | fetchPlan (sql : String) (mode : Plan.Mode)
  | close
  deriving DecidableEq

namespace Call

abbrev Answer : Call → Type
  | openSession _ => Unit
  | fetchAll .. => List Row
  | execute _ => Unit
  | fetchPlan .. => Option String
  | close => Unit

def isRoundTrip : Call → Bool
  | openSession _ | close => false
  | _ => true

abbrev Outcome (c : Call) := Except Failure c.Answer

end Call

inductive Level where
  | warning
  | error
  deriving DecidableEq, Repr

structure Remark where
  level : Level
  message : String
  deriving DecidableEq, Repr

end QueryTuning
