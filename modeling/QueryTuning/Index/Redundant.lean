import QueryTuning.Index.Catalog

/-!
# Redundant indexes

An index is redundant if an index of the same table with a smaller id has the
same signature. It is reported once and cites the first such index, which is
never reported itself. Figures of its use are added where they are known.
-/

set_option autoImplicit false

namespace QueryTuning.Index

structure Redundant where
  schema : Cell
  table : Cell
  name : Cell
  reason : String
  recommendation : String
  dropStatement : String
  sizeMb : Binary64
  usageCount : Int
  lastUsed : Option Moment

def redundantAdvice : String := "Consider combining or removing. Validate actual usage first."

def dropStatement (schema table name : Cell) : String :=
  "DROP INDEX [" ++ name.display ++ "] ON [" ++ schema.display ++ "].[" ++ table.display ++ "]"

def redundantWith (schema table : Cell) (first i : Existing) : Redundant where
  schema := schema
  table := table
  name := i.name
  reason := "Potentially redundant with " ++ first.name.display
  recommendation := redundantAdvice
  dropStatement := dropStatement schema table i.name
  sizeMb := .zero
  usageCount := 0
  lastUsed := none

structure TableIndexes where
  schema : Cell
  table : Cell
  indexes : List Existing

def addToTable (tables : List TableIndexes) (i : Existing) : List TableIndexes :=
  let isOf (t : TableIndexes) : Bool := t.schema.same i.schema && t.table.same i.table
  if tables.any isOf then
    tables.map fun t => if isOf t then { t with indexes := t.indexes ++ [i] } else t
  else tables ++ [⟨i.schema, i.table, [i]⟩]

def byTable (indexes : List Existing) : List TableIndexes := indexes.foldl addToTable []

def repeats (schema table : Cell) :
    (seen : List (Signature × Existing)) → List Existing → Except ValueFault (List Redundant)
  | _, [] => .ok []
  | seen, i :: is => do
    let s ← signature i.columns
    match seen.find? fun entry => entry.1 == s with
    | some (_, first) => return redundantWith schema table first i :: (← repeats schema table seen is)
    | none => repeats schema table (seen ++ [(s, i)]) is

def redundantIn (t : TableIndexes) : Except ValueFault (List Redundant) :=
  repeats t.schema t.table [] (t.indexes.mergeSort fun a b => a.id ≤ b.id)

def findRedundant (rows : List Row) : Except ValueFault (List Redundant) := do
  return (← (byTable (← gather rows)).mapM redundantIn).flatten

def lastUsed (row : Row) : Except ValueFault (Option Moment) :=
  let moments := ["last_user_seek", "last_user_scan", "last_user_lookup"].filterMap fun column =>
    match row.cellOrNull column with
    | .moment m => some m
    | _ => none
  match moments with
  | [] => .ok none
  | m :: ms => (Moment.latest m ms).map some

def withUsage (usage : List Row) (r : Redundant) : Except ValueFault Redundant :=
  match usage.find? fun row => (row.cellOrNull "index_name").same r.name with
  | none => .ok r
  | some row => do
    let sizeMb ← (row.cellOrNull "size_mb").realOrZero
    let usageCount ← (row.cellOrNull "usage_count").intOrZero
    let lastUsed ← lastUsed row
    return { r with sizeMb, usageCount, lastUsed }

end QueryTuning.Index
