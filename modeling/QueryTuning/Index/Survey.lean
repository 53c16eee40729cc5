import QueryTuning.Index.Recommendation
import QueryTuning.Index.Redundant
import QueryTuning.Plan.Reading
import QueryTuning.Query.Placeholder
import QueryTuning.Query.Tables

/-!
# Surveying indexes

The estimated plan of a query tells which indexes are missing, and the catalog
tells which of the indexes on its tables are redundant. The catalog is read
table by table; what is known about the use of a redundant index is added if
the server tells.
-/

set_option autoImplicit false

namespace QueryTuning.Index

def indexColumnsSql : String :=
  "\nSELECT\n" ++
  "    s.name AS schema_name,\n" ++
  "    t.name AS table_name,\n" ++
  "    i.index_id,\n" ++
  "    i.name AS index_name,\n" ++
  "    c.name AS column_name,\n" ++
  "    ic.key_ordinal,\n" ++
  "    ic.is_included_column,\n" ++
  "    ic.is_descending_key\n" ++
  "FROM sys.indexes AS i\n" ++
  "INNER JOIN sys.tables AS t ON t.object_id = i.object_id\n" ++
  "INNER JOIN sys.schemas AS s ON s.schema_id = t.schema_id\n" ++
  "INNER JOIN sys.index_columns AS ic\n" ++
  "    ON ic.object_id = i.object_id AND ic.index_id = i.index_id\n" ++
  "INNER JOIN sys.columns AS c\n" ++
  "    ON c.object_id = ic.object_id AND c.column_id = ic.column_id\n" ++
  "WHERE t.name = ?\n" ++
  "    AND i.index_id > 0\n" ++
  "    AND i.is_hypothetical = 0\n" ++
  "ORDER BY s.name, i.index_id, ic.key_ordinal, ic.index_column_id\n"

def indexUsageSql : String :=
  "\nSELECT\n" ++
  "    i.name AS index_name,\n" ++
  "    ISNULL(us.user_seeks, 0) + ISNULL(us.user_scans, 0) + ISNULL(us.user_lookups, 0) " ++
  "AS usage_count,\n" ++
  "    us.last_user_seek,\n" ++
  "    us.last_user_scan,\n" ++
  "    us.last_user_lookup,\n" ++
  "    ISNULL(ps.used_page_count, 0) * 8 / 1024.0 AS size_mb\n" ++
  "FROM sys.indexes AS i\n" ++
  "INNER JOIN sys.tables AS t ON t.object_id = i.object_id\n" ++
  "INNER JOIN sys.schemas AS s ON s.schema_id = t.schema_id\n" ++
  "LEFT JOIN sys.dm_db_index_usage_stats AS us\n" ++
  "    ON us.object_id = i.object_id\n" ++
  "    AND us.index_id = i.index_id\n" ++
  "    AND us.database_id = DB_ID()\n" ++
  "LEFT JOIN (\n" ++
  "    SELECT object_id, index_id, SUM(used_page_count) AS used_page_count\n" ++
  "    FROM sys.dm_db_partition_stats\n" ++
  "    GROUP BY object_id, index_id\n" ++
  ") AS ps ON ps.object_id = i.object_id AND ps.index_id = i.index_id\n" ++
  "WHERE s.name = ? AND t.name = ?\n"

variable {ν : Type}

/-- The facts of the estimated plan of a query. Placeholders are replaced first, since the
server cannot compile text with undeclared variables. -/
def estimatedPlan (query : String) (limit : TimeLimit) : Task ν Plan.Extraction :=
  Plan.retrieve .estimatedPlan .estimated "No usable estimated plan returned"
    (Query.substitutePlaceholders query) limit

def recommendFor (query : String) (limit : TimeLimit) : Task ν (List Recommendation) := do
  return recommendations (← estimatedPlan query limit)

def catalogCall (table : String) : Call := .fetchAll indexColumnsSql [.text table]

def usageCall (r : Redundant) : Call := .fetchAll indexUsageSql [r.schema, r.table]

def lookUpUsage (limit : TimeLimit) (r : Redundant) : Task ν Redundant := do
  let rows ← Task.bestEffort .indexUsage (usageCall r) limit
  Task.ofValue (withUsage (rows.getD []) r)

def lookUpUsages (limit : TimeLimit) : List Redundant → Task ν (List Redundant)
  | [] => return []
  | r :: rs => do
    let r ← lookUpUsage limit r
    let rs ← lookUpUsages limit rs
    return r :: rs

def redundantOf (table : String) (limit : TimeLimit) : Task ν (List Redundant) := do
  let rows ← Task.mandatory .indexCatalog (catalogCall table) limit
  let found ← Task.ofValue (findRedundant rows)
  lookUpUsages limit found

def redundantOfAll (limit : TimeLimit) : List String → Task ν (List Redundant)
  | [] => return []
  | table :: tables => do
    let found ← redundantOf table limit
    let others ← redundantOfAll limit tables
    return found ++ others

def redundantFor (query : String) (limit : TimeLimit) : Task ν (List Redundant) := do
  let tables := Query.tablesOf query
  if tables.isEmpty then Task.warn "No table names found in query"
  redundantOfAll limit tables

end QueryTuning.Index
