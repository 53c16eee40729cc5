import QueryTuning.Moment
import QueryTuning.Number.Digits
import QueryTuning.Number.Literal
import QueryTuning.Text.Case

/-!
# Values read from a database

A cell holds a value of one of several sorts, and a row pairs column names with
cells. Conversions say which values they take; truth values, integers and reals
that are numerically equal count as equal.
-/

set_option autoImplicit false

namespace QueryTuning

inductive Cell where
  | null
  | truth (b : Bool)
  | integer (n : Int)
  | real (x : Binary64)
  | text (s : String)
  | moment (m : Moment)
  deriving DecidableEq

namespace Cell

def sort : Cell → ValueSort
  | null => .missing
  | truth _ => .truth
  | integer _ => .integer
  | real _ => .real
  | text _ => .text
  | moment _ => .moment

def number? : Cell → Option Binary64
  | truth b => some (if b then .finite 1 else .zero)
  | integer n => some (.finite n)
  | real x => some x
  | _ => none

def same (a b : Cell) : Bool :=
  match a, b with
  | null, null => true
  | text s, text t => s == t
  | moment m, moment n =>
    m.offset.isSome == n.offset.isSome && m.instant == n.instant
  | a, b =>
    match a.number?, b.number? with
    | some x, some y => x.eq y
    | _, _ => false

def isFilled : Cell → Bool
  | null => false
  | truth b => b
  | integer n => n ≠ 0
  | real x => !x.isZero
  | text s => !s.isEmpty
  | moment _ => true

def toInt : Cell → Except ValueFault Int
  | null => .error (.noInteger .missing)
  | truth b => .ok (if b then 1 else 0)
  | integer n => .ok n
  | real x => x.truncate
  | text s =>
    match Literal.integer? s.toList with
    | some n => .ok n
    | none => .error (.notInteger s)
  | moment _ => .error (.noInteger .moment)

def toReal : Cell → Except ValueFault Binary64
  | null => .error (.noReal .missing)
  | truth b => .ok (if b then .finite 1 else .zero)
  | integer n => Binary64.ofInt? n
  | real x => .ok x
  | text s =>
    match Literal.real? s.toList with
    | some x => .ok x
    | none => .error (.notReal s)
  | moment _ => .error (.noReal .moment)

def intOrZero (c : Cell) : Except ValueFault Int := if c.isFilled then c.toInt else .ok 0

def realOrZero (c : Cell) : Except ValueFault Binary64 :=
  if c.isFilled then c.toReal else .ok .zero

def display : Cell → String
  | null => "None"
  | truth b => if b then "True" else "False"
  | integer n => toString n
  | real x => x.text
  | text s => s
  | moment m => m.text " "

def lt? (a b : Cell) : Except ValueFault Bool :=
  match a, b with
  | text s, text t => .ok (decide (s < t))
  | moment m, moment n => m.lt? n
  | a, b =>
    match a.number?, b.number? with
    | some x, some y => .ok (x.lt y)
    | _, _ => .error (.unordered a.sort b.sort)

end Cell

abbrev Row := List (String × Cell)

namespace Row

def find? (row : Row) (column : String) : Option Cell :=
  (List.find? (fun entry => entry.1 == column) row).map Prod.snd

def cell (row : Row) (column : String) : Except ValueFault Cell :=
  match row.find? column with
  | some c => .ok c
  | none => .error (.missing column)

def cellOrNull (row : Row) (column : String) : Cell := (row.find? column).getD .null

def put (row : Row) (column : String) (c : Cell) : Row :=
  if row.any fun entry => entry.1 == column then
    row.map fun entry => if entry.1 = column then (column, c) else entry
  else row ++ [(column, c)]

def ofColumns (columns : List String) (cells : List Cell) : Row :=
  (columns.zip cells).foldl (fun row entry => row.put entry.1 entry.2) []

end Row

end QueryTuning
