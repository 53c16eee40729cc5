import QueryTuning.Odbc.Driver
import QueryTuning.Plan.Advisory
import QueryTuning.Session.Run
import QueryTuning.Text.Basic

/-!
# Sessions over a blocking driver

Every call takes a cursor of its own, which is closed when the call ends. A plan
is had by switching a plan mode on, running the statement, and switching the
mode off again in any case. The driver is told when a running call is cancelled.
-/

set_option autoImplicit false

namespace QueryTuning.Odbc

variable {δ α : Type}

def connect (d : Driver δ) (connection : String) : Action δ Unit :=
  Action.ask (.connect connection) fun state => d.connect state connection

def close (d : Driver δ) : Action δ Unit := Action.ask .closeConnection d.closeConnection

def withCursor (d : Driver δ) (action : Action δ α) : Action δ α := do
  Action.settle .openCursor (.ok ())
  Action.whenCancelled
    (Action.afterwards action (Action.settle .closeCursor (.ok ())))
    (Action.ask .cancel d.cancel)

def runStatement (d : Driver δ) (sql : String) (parameters : List Cell) : Action δ Results :=
  Action.ask (.execute sql parameters) fun state => d.execute state sql parameters

def fetch (set : ResultSet) : Action δ (Option (List String × List (List Cell))) :=
  match set.columns with
  | none => return none
  | some columns => do
    let rows ← Action.settle .fetchAll set.rows
    return some (columns, rows)

def fetchRows (set : ResultSet) : Action δ (List Row) := do
  match ← fetch set with
  | none => return []
  | some (columns, rows) => return rows.map (Row.ofColumns columns)

def noNextSet (failure : Option Failure) : Action δ Unit :=
  Action.settle .nextSet (match failure with | none => .ok () | some f => .error f)

def discard : Results → Action δ Unit
  | .last _ failure => noNextSet failure
  | .more _ rest => do
    Action.settle .nextSet (.ok ())
    discard rest

def fetchAll (d : Driver δ) (sql : String) (parameters : List Cell) : Action δ (List Row) :=
  withCursor d do
    let results ← runStatement d sql parameters
    fetchRows results.current

def execute (d : Driver δ) (sql : String) : Action δ Unit :=
  withCursor d do
    let results ← runStatement d sql []
    discard results

def planMark : String := "ShowPlanXML"

def planOf? : List Cell → Option String
  | [.text s] => if Text.occursIn planMark.toList s.toList then some s else none
  | _ => none

def lastPlan (found : Option String) (rows : List (List Cell)) : Option String :=
  rows.foldl (fun found row => (planOf? row).or found) found

def searchSet (found : Option String) (set : ResultSet) : Action δ (Option String) := do
  match ← fetch set with
  | none => return found
  | some (_, rows) => return lastPlan found rows

def searchPlan (found : Option String) : Results → Action δ (Option String)
  | .last set failure => do
    let found ← searchSet found set
    noNextSet failure
    return found
  | .more set rest => do
    let found ← searchSet found set
    Action.settle .nextSet (.ok ())
    searchPlan found rest

def toggle (mode : Plan.Mode) (position : String) : String :=
  (match mode with
    | .estimated => "SET SHOWPLAN_XML "
    | .actual => "SET STATISTICS XML ") ++ position

def fetchPlan (d : Driver δ) (sql : String) (mode : Plan.Mode) : Action δ (Option String) :=
  withCursor d do
    let _ ← runStatement d (toggle mode "ON") []
    Action.afterwards
      (do
        let results ← runStatement d sql []
        searchPlan none results)
      (runStatement d (toggle mode "OFF") [])

def perform (d : Driver δ) : (c : Call) → Action δ c.Answer
  | .openSession connection => connect d connection
  | .fetchAll sql parameters => fetchAll d sql parameters
  | .execute sql => execute d sql
  | .fetchPlan sql mode => fetchPlan d sql mode
  | .close => close d

def server (d : Driver δ) : Server (Log δ) where
  respond log c :=
    let (outcome, log) := (perform d c).run log
    (⟨some .zero, outcome⟩, log)

def missingMessage : String :=
  "pyodbc not installed. Install with: pip install 'sql-advisor[mssql]'"

def notInstalled : Failure := .driver ⟨.general, missingMessage⟩

def missing : Server (Log δ) where
  respond log _ := (⟨some .zero, .error notInstalled⟩, log)

end QueryTuning.Odbc
