import QueryTuning.Failure
import QueryTuning.Number.Digits

/-!
# Failures of a session

A round trip may be limited in time. A budget is given in milliseconds, and one
that is not positive stands for no limit.

Every round trip belongs to a stage. A failure of a driver ends a mandatory
stage with a fatal failure that names the stage; in an optional stage it is only
reported. Refused input and other findings of the analysis keep their own form,
and cancellation is never turned into anything else.
-/

set_option autoImplicit false

namespace QueryTuning

abbrev TimeLimit := Option Binary64

namespace TimeLimit

def ofMilliseconds (budget : Int) : Except ValueFault TimeLimit :=
  if budget ≤ 0 then .ok none
  else (Binary64.ofInt? budget).map fun x => some (x.div (.finite 1000))

def text : TimeLimit → String
  | none => "Nones"
  | some seconds => seconds.text ++ "s"

def isSpent : TimeLimit → Bool
  | none => false
  | some seconds => seconds.le .zero

end TimeLimit

inductive Stage where
  | openSession
  | serverInfo
  | sessionStatistics
  | warmup
  | actualPlan
  | execution
  | queryStatistics
  | estimatedPlan
  | indexCatalog
  | indexUsage
  | closeSession
  | named (name : String)
  deriving DecidableEq, Repr

def Stage.name : Stage → String
  | openSession => "open session"
  | serverInfo => "server info"
  | sessionStatistics => "session statistics"
  | warmup => "warmup execution"
  | actualPlan => "actual plan retrieval"
  | execution => "benchmark execution"
  | queryStatistics => "query statistics"
  | estimatedPlan => "estimated plan retrieval"
  | indexCatalog => "index catalog read"
  | indexUsage => "index usage statistics"
  | closeSession => "close session"
  | named name => name

inductive DriverFault where
  | general
  | badValue
  | permission
  | connection
  | system
  | timeout
  deriving DecidableEq, Repr

structure DriverError where
  fault : DriverFault
  message : String
  deriving DecidableEq, Repr

inductive Cause where
  | timedOut (limit : TimeLimit)
  | driver (error : DriverError)
  deriving DecidableEq

def Cause.message : Cause → String
  | timedOut limit => "timed out after " ++ limit.text
  | driver error => error.message

inductive Failure where
  | invalidInput (fault : InputFault)
  /-- A finding of the analysis without a form of its own. -/
  | advisory (message : String)
  /-- A stage that cannot be done without. -/
  | fatal (stage : Stage) (cause : Option Cause)
  /-- A stage that can be done without. -/
  | transient (stage : Stage) (cause : Option Cause)
  | driver (error : DriverError)
  | value (fault : ValueFault)
  | cancelled
  deriving DecidableEq

namespace Failure

def expired : Failure := driver ⟨.timeout, ""⟩

def stageMessage (stage : Stage) (verdict : String) (cause : Option Cause) : String :=
  stage.name ++ verdict ++ ((cause.map fun c => ": " ++ c.message).getD "")

def message : Failure → String
  | invalidInput fault => fault.message
  | advisory message => message
  | fatal stage cause => stageMessage stage " failed" cause
  | transient stage cause => stageMessage stage " unavailable" cause
  | driver error => error.message
  | value fault => fault.message
  | cancelled => ""

def isFinding : Failure → Bool
  | invalidInput _ | advisory _ | fatal .. | transient .. => true
  | _ => false

def causeOf (limit : TimeLimit) (error : DriverError) : Cause :=
  if error.fault = .timeout then .timedOut limit else .driver error

def inMandatory (stage : Stage) (limit : TimeLimit) : Failure → Failure
  | driver error => fatal stage (some (causeOf limit error))
  | failure => failure

def unavailable (stage : Stage) (limit : TimeLimit) (failure : Failure) : String :=
  let reason := match failure with
    | driver error => (causeOf limit error).message
    | failure => failure.message
  stage.name ++ " unavailable: " ++ reason

end Failure

end QueryTuning
