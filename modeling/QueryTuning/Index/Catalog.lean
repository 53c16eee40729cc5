import QueryTuning.Cell

/-!
# The index catalog

Catalog rows name one column of one index each. They are gathered into indexes,
and an index is characterized by its signature: the key columns in key order and
then the included columns by name.
-/

set_option autoImplicit false

namespace QueryTuning.Index

structure CatalogColumn where
  name : Cell
  ordinal : Int
  isIncluded : Bool
  isDescending : Bool

structure Existing where
  schema : Cell
  table : Cell
  id : Int
  name : Cell
  columns : List CatalogColumn

namespace Existing

def isOf (i : Existing) (schema table : Cell) (id : Int) : Bool :=
  i.schema.same schema && i.table.same table && i.id == id

def add (i : Existing) (c : CatalogColumn) : Existing := { i with columns := i.columns ++ [c] }

end Existing

def columnOf (row : Row) : Except ValueFault CatalogColumn := do
  let name ← row.cell "column_name"
  let ordinal ← (← row.cell "key_ordinal").intOrZero
  let isIncluded := (← row.cell "is_included_column").isFilled
  let isDescending := (← row.cell "is_descending_key").isFilled
  return ⟨name, ordinal, isIncluded, isDescending⟩

def gatherRow (indexes : List Existing) (row : Row) : Except ValueFault (List Existing) := do
  let schema ← row.cell "schema_name"
  let table ← row.cell "table_name"
  let id ← (← row.cell "index_id").toInt
  if indexes.any fun i => i.isOf schema table id then
    let column ← columnOf row
    return indexes.map fun i => if i.isOf schema table id then i.add column else i
  else
    let name ← row.cell "index_name"
    let column ← columnOf row
    return indexes ++ [⟨schema, table, id, name, [column]⟩]

def gather (rows : List Row) : Except ValueFault (List Existing) := rows.foldlM gatherRow []

structure SignatureColumn where
  name : String
  ordinal : Int
  isIncluded : Bool
  isDescending : Bool
  deriving DecidableEq, Repr

abbrev Signature := List SignatureColumn

def signatureColumn (c : CatalogColumn) : Except ValueFault SignatureColumn :=
  match c.name with
  | .text s => .ok ⟨lowerCase s, c.ordinal, c.isIncluded, c.isDescending⟩
  | name => .error (.noName name.sort)

def keyColumns (columns : List CatalogColumn) : List CatalogColumn :=
  (columns.filter fun c => !c.isIncluded).mergeSort fun a b => a.ordinal ≤ b.ordinal

def nameAfter (a b : Cell) : Bool :=
  match b.lt? a with
  | .ok after => after
  | .error _ => false

def includedColumns (columns : List CatalogColumn) : Except ValueFault (List CatalogColumn) :=
  match columns.filter CatalogColumn.isIncluded with
  | [] => .ok []
  | [c] => .ok [c]
  | c :: cs => do
    for d in cs do
      let _ ← d.name.lt? c.name
    return (c :: cs).mergeSort fun a b => !nameAfter a.name b.name

def signature (columns : List CatalogColumn) : Except ValueFault Signature := do
  let included ← includedColumns columns
  (keyColumns columns ++ included).mapM signatureColumn

end QueryTuning.Index
