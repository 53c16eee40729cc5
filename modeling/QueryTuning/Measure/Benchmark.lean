import QueryTuning.Measure.Metrics
import QueryTuning.Plan.Reading
import QueryTuning.Query.LikeText
import QueryTuning.Query.Placeholder
import QueryTuning.Text.Basic

/-!
# Benchmarks

A query is run a number of times and what was measured is averaged. Every
measured run takes the plan first, then times one execution, and then looks up
what the server knows about the statement. Warm-up runs come before, are not
measured, and their failures are only reported.
-/

set_option autoImplicit false

namespace QueryTuning.Measure

def statisticsOnSql : String := "SET STATISTICS IO ON; SET STATISTICS TIME ON;"

def queryStatisticsSql : String :=
  "\nSELECT TOP 1\n" ++
  "    qs.total_logical_reads / qs.execution_count AS avg_logical_reads,\n" ++
  "    qs.total_physical_reads / qs.execution_count AS avg_physical_reads,\n" ++
  "    qs.total_worker_time / qs.execution_count AS avg_cpu_time_us,\n" ++
  "    qs.total_rows / qs.execution_count AS avg_rows,\n" ++
  "    qs.execution_count\n" ++
  "FROM sys.dm_exec_query_stats AS qs\n" ++
  "CROSS APPLY sys.dm_exec_sql_text(qs.sql_handle) AS st\n" ++
  "WHERE st.text LIKE ? ESCAPE '\\'\n" ++
  "ORDER BY qs.last_execution_time DESC\n"

structure Protocol where
  iterations : Int := 3
  warmup : Int := 1
  collectStatistics : Bool := true
  limit : TimeLimit := none
  deriving DecidableEq

def Protocol.check (p : Protocol) (query : String) : Except InputFault Unit :=
  if p.iterations < 1 then .error (.iterations p.iterations)
  else if p.warmup < 0 then .error (.warmup p.warmup)
  else if isBlankString query then .error .blankQueryText
  else .ok ()

def statisticsCall (sql : String) : Call :=
  .fetchAll queryStatisticsSql [.text ("%" ++ Query.likePattern sql ++ "%")]

variable {ν : Type} [Quantity ν]

def figures (plan : Plan.Extraction) (elapsed : ν) (rows : Nat) (statistics : Row) :
    Except ValueFault (Metrics ν) := do
  let executions ← (statistics.cellOrNull "execution_count").intOrZero
  let reuse := max (executions - 1) 0
  let cpuTime ← Quantity.ofCell (statistics.cellOrNull "avg_cpu_time_us")
  let logicalReads ← Quantity.ofCell (statistics.cellOrNull "avg_logical_reads")
  let physicalReads ← Quantity.ofCell (statistics.cellOrNull "avg_physical_reads")
  let rowsScanned ← Quantity.ofCell (statistics.cellOrNull "avg_rows")
  return {
    executionTimeMs := Quantity.thousandfold elapsed
    cpuTimeMs := Quantity.thousandth cpuTime
    logicalReads, physicalReads
    rowsReturned := Quantity.ofCount rows
    rowsScanned
    executionPlan := plan.document
    estimatedPlanCost := Quantity.ofReal plan.estimatedCost
    isPlanCached := decide (0 < reuse)
    planReuseCount := reuse }

def lookUpStatistics (sql : String) (collectStatistics : Bool) (limit : TimeLimit) :
    Task ν Row := do
  if collectStatistics then
    let rows ← Task.bestEffort .queryStatistics (statisticsCall sql) limit
    return ((rows.getD []).head?).getD []
  else return []

def measure (sql : String) (collectStatistics : Bool) (limit : TimeLimit) : Task ν (Metrics ν) := do
  let plan ← Plan.retrieve .actualPlan .actual
    "No usable actual plan returned; plan cost recorded as 0" sql limit
  let started ← Task.readClock
  let rows ← Task.mandatory .execution (.fetchAll sql []) limit
  let ended ← Task.readClock
  let statistics ← lookUpStatistics sql collectStatistics limit
  Task.ofValue (figures plan (Quantity.difference ended started) rows.length statistics)

def warmUp (sql : String) (limit : TimeLimit) : Task ν Unit :=
  Task.onFatal (do let _ ← Task.mandatory .warmup (.fetchAll sql []) limit)
    fun failure => "Warmup run failed: " ++ failure.message

def warmUps (sql : String) (limit : TimeLimit) : Nat → Task ν Unit
  | 0 => return ()
  | n + 1 => do
    warmUp sql limit
    warmUps sql limit n

def measurements (sql : String) (collectStatistics : Bool) (limit : TimeLimit) :
    Nat → Task ν (List (Metrics ν))
  | 0 => return []
  | n + 1 => do
    let run ← measure sql collectStatistics limit
    let runs ← measurements sql collectStatistics limit n
    return run :: runs

def benchmark (query : String) (p : Protocol) : Task ν (Metrics ν) := do
  Task.ofInput (p.check query)
  let sql := Query.substitutePlaceholders query
  if p.collectStatistics then
    let _ ← Task.bestEffort .sessionStatistics (.execute statisticsOnSql) p.limit
  warmUps sql p.limit p.warmup.toNat
  let runs ← measurements sql p.collectStatistics p.limit p.iterations.toNat
  match runs with
  | [] => Task.ofInput (.error .noRuns)
  | first :: others => Task.ofValue (average first others)

def collect (query : String) (collectStatistics : Bool) (limit : TimeLimit) : Task ν (Metrics ν) :=
  benchmark query ⟨1, 0, collectStatistics, limit⟩

end QueryTuning.Measure
