import QueryTuning.Cell
import QueryTuning.Session.Failure

/-!
# A blocking driver

What a driver does when it is asked, and the record of what it was asked for.
Executing a statement yields result sets one after another, finitely many; each
may fail to be fetched, and going on to the next one may fail too.
-/

set_option autoImplicit false

namespace QueryTuning.Odbc

structure ResultSet where
  columns : Option (List String)
  rows : Except Failure (List (List Cell))

inductive Results where
  /-- No other set follows, or going on fails. -/
  | last (set : ResultSet) (failure : Option Failure)
  | more (set : ResultSet) (rest : Results)

namespace Results

def current : Results → ResultSet
  | last set _ => set
  | more set _ => set

end Results

inductive Request where
  | connect (connection : String)
  | openCursor
  | execute (sql : String) (parameters : List Cell)
  | fetchAll
  | nextSet
  | cancel
  | closeCursor
  | closeConnection
  deriving DecidableEq

structure Record where
  request : Request
  failure : Option Failure
  deriving DecidableEq

structure Driver (δ : Type) where
  connect : δ → String → Except Failure Unit × δ
  execute : δ → String → List Cell → Except Failure Results × δ
  cancel : δ → Except Failure Unit × δ
  closeConnection : δ → Except Failure Unit × δ

structure Log (δ : Type) where
  driver : δ
  records : List Record

abbrev Action (δ : Type) := ExceptT Failure (StateM (Log δ))

namespace Action

variable {δ α β : Type}

def failureOf (result : Except Failure α) : Option Failure :=
  match result with
  | .ok _ => none
  | .error failure => some failure

def ask (request : Request) (answer : δ → Except Failure α × δ) : Action δ α :=
  ExceptT.mk fun log =>
    let (result, driver) := answer log.driver
    (result, ⟨driver, log.records ++ [⟨request, failureOf result⟩]⟩)

def settle (request : Request) (result : Except Failure α) : Action δ α :=
  ask request fun state => (result, state)

def afterwards (action : Action δ α) (cleanup : Action δ β) : Action δ α :=
  ExceptT.mk do
    let result ← action.run
    match ← cleanup.run with
    | .ok _ => return result
    | .error failure => return .error failure

def whenCancelled (action : Action δ α) (cleanup : Action δ β) : Action δ α :=
  ExceptT.mk do
    let result ← action.run
    match result with
    | .error .cancelled => do
      let _ ← cleanup.run
      return result
    | _ => return result

end Action

end QueryTuning.Odbc
