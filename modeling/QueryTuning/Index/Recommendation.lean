import QueryTuning.Number.Binary64
import QueryTuning.Plan.Advisory
import QueryTuning.Text.Basic

/-!
# Recommended indexes

An index to create, with the statement that creates it. Recommendations come
from the advisories of a plan: equality columns go before inequality columns,
all ascending, and nothing is dropped or merged.
-/

set_option autoImplicit false

namespace QueryTuning.Index

inductive SortDirection where
  | ascending
  | descending
  deriving DecidableEq, Repr

def SortDirection.word : SortDirection → String
  | ascending => "ASC"
  | descending => "DESC"

inductive Kind where
  | nonclustered
  | clustered
  | columnstore
  | spatial
  | xml
  deriving DecidableEq, Repr

namespace Kind

def all : List Kind := [nonclustered, clustered, columnstore, spatial, xml]

def name : Kind → String
  | nonclustered => "NONCLUSTERED"
  | clustered => "CLUSTERED"
  | columnstore => "COLUMNSTORE"
  | spatial => "SPATIAL"
  | xml => "XML"

def ofName? (s : String) : Option Kind := all.find? fun kind => kind.name == s

end Kind

structure KeyColumn where
  name : String
  direction : SortDirection
  deriving DecidableEq, Repr

structure Recommendation where
  database : String
  schema : String
  table : String
  keyColumns : List KeyColumn
  includedColumns : List String
  isUnique : Bool
  kind : Kind
  filterPredicate : String
  createStatement : String
  estimatedImpact : Binary64
  deriving DecidableEq

namespace Recommendation

def shortName (name : String) : String := String.ofList (name.toList.take 3)

def indexName (r : Recommendation) : String :=
  (if r.kind = .clustered then "CIX" else "IX") ++ "_" ++ r.table ++ "_" ++
    "_".intercalate (r.keyColumns.map fun column => shortName column.name)

def tablePath (r : Recommendation) : String :=
  "[" ++ r.database ++ "].[" ++ r.schema ++ "].[" ++ r.table ++ "]"

def render (r : Recommendation) : String :=
  if r.keyColumns.isEmpty then ""
  else
    "CREATE " ++ (if r.isUnique then "UNIQUE " else "") ++
      (if r.kind = .clustered then "CLUSTERED " else "NONCLUSTERED ") ++
      "INDEX [" ++ r.indexName ++ "] ON " ++ r.tablePath ++ " " ++
      "(" ++ ", ".intercalate (r.keyColumns.map fun column =>
        column.name ++ " " ++ column.direction.word) ++ ")" ++
      (if r.includedColumns.isEmpty then ""
        else " INCLUDE (" ++ ", ".intercalate r.includedColumns ++ ")") ++
      (if (trimmed r.filterPredicate).isEmpty then ""
        else " WHERE " ++ trimmed r.filterPredicate)

end Recommendation

/-- Points for an index without a figure of its own: 25, five for each key column up to
25, three for each included column up to 15, and at most 90. -/
def impactPoints (keys included : Int) : Int :=
  min 90 (25 + min 25 (5 * keys) + min 15 (3 * included))

def heuristicImpact (keys included : Int) : Binary64 := Binary64.ofRat (impactPoints keys included)

def impactOf (advisory : Plan.Advisory) : Binary64 :=
  let estimate := heuristicImpact
    (advisory.equalityColumns ++ advisory.inequalityColumns).length advisory.includeColumns.length
  match advisory.impact with
  | some impact => if Binary64.zero.lt impact then impact else estimate
  | none => estimate

def recommend (advisory : Plan.Advisory) : Recommendation :=
  let draft : Recommendation :=
    { database := advisory.database
      schema := advisory.schema
      table := advisory.table
      keyColumns := (advisory.equalityColumns ++ advisory.inequalityColumns).map
        fun name => ⟨name, .ascending⟩
      includedColumns := advisory.includeColumns
      isUnique := false
      kind := .nonclustered
      filterPredicate := ""
      createStatement := ""
      estimatedImpact := impactOf advisory }
  { draft with createStatement := draft.render }

def recommendations (e : Plan.Extraction) : List Recommendation := e.advisories.map recommend

end QueryTuning.Index
