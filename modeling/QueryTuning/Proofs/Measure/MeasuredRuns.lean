import QueryTuning.Proofs.Lists
import QueryTuning.Proofs.Measure.Exact
import QueryTuning.Proofs.Measure.WarmUps

/-!
# Measured runs

What a benchmark reports is made of what its measured runs learned, and of nothing else: each
asks for the plan, executes the statement between two readings of the clock, and may ask for
statistics. Warm-ups come before, and take no part in the figures or in the readings. So a
benchmark without them comes to the same, unless a warm-up is refused, which ends the benchmark.
-/

set_option autoImplicit false

namespace QueryTuning

variable {σ τ ν : Type}

namespace Measure

def firstRow (told : Except Failure (List Row)) : Row := ((told.toOption.getD []).head?).getD []

/-- What one measured run learned. -/
structure Observation (ν : Type) where
  document : Option String
  started : ν
  rows : List Row
  ended : ν
  /-- What came of asking for statistics, if they were asked for. -/
  told : Except Failure (List Row)

namespace Observation

def exchanges (sql : String) (collectStatistics : Bool) (o : Observation ν) : List Exchange :=
  [⟨.actualPlan, .fetchPlan sql .actual, .ok o.document⟩,
    ⟨.execution, .fetchAll sql [], .ok o.rows⟩] ++
    if collectStatistics then [⟨.queryStatistics, statisticsCall sql, o.told⟩] else []

def readings (o : Observation ν) : List ν := [o.started, o.ended]

def plan (o : Observation ν) : Plan.Extraction := Plan.interpret .actual (o.document.getD "")

def statistics (collectStatistics : Bool) (o : Observation ν) : Row :=
  if collectStatistics then firstRow o.told else []

def cell (collectStatistics : Bool) (column : String) (o : Observation ν) : Cell :=
  (o.statistics collectStatistics).cellOrNull column

structure Reports [Quantity ν] (collectStatistics : Bool) (o : Observation ν) (m : Metrics ν) :
    Prop where
  executionTimeMs :
    m.executionTimeMs = Quantity.thousandfold (Quantity.difference o.ended o.started)
  rowsReturned : m.rowsReturned = Quantity.ofCount o.rows.length
  estimatedPlanCost : m.estimatedPlanCost = Quantity.ofReal o.plan.estimatedCost
  cpuTimeMs : (Quantity.ofCell (o.cell collectStatistics "avg_cpu_time_us")).map
    Quantity.thousandth = .ok m.cpuTimeMs
  logicalReads :
    Quantity.ofCell (o.cell collectStatistics "avg_logical_reads") = .ok m.logicalReads
  physicalReads :
    Quantity.ofCell (o.cell collectStatistics "avg_physical_reads") = .ok m.physicalReads
  rowsScanned : Quantity.ofCell (o.cell collectStatistics "avg_rows") = .ok m.rowsScanned
  executionPlan : m.executionPlan = o.plan.document
  planReuseCount : (o.cell collectStatistics "execution_count").intOrZero.map
    (fun executions => max (executions - 1) 0) = .ok m.planReuseCount
  isPlanCached : m.isPlanCached = decide (0 < m.planReuseCount)

theorem reports_of_figures [Quantity ν] {collectStatistics : Bool} {o : Observation ν}
    {m : Metrics ν}
    (h : figures o.plan (Quantity.difference o.ended o.started) o.rows.length
      (o.statistics collectStatistics) = .ok m) : o.Reports collectStatistics m := by
  simp only [figures, bind, Except.bind] at h
  split at h
  · cases h
  next executions hexecutions =>
  split at h
  · cases h
  next cpu hcpu =>
  split at h
  · cases h
  next logical hlogical =>
  split at h
  · cases h
  next physical hphysical =>
  split at h
  · cases h
  next scanned hscanned =>
  cases h
  exact {
    executionTimeMs := rfl
    rowsReturned := rfl
    estimatedPlanCost := rfl
    cpuTimeMs := by rw [cell, hcpu]; rfl
    logicalReads := hlogical
    physicalReads := hphysical
    rowsScanned := hscanned
    executionPlan := rfl
    planReuseCount := by rw [cell, hexecutions]; rfl
    isPlanCached := rfl }

end Observation

theorem follows_lookUpStatistics {sql : String} {collectStatistics : Bool} {limit : TimeLimit}
    {t : Trace ν} {row : Row} (hl : limit.isSpent = false)
    (hf : Task.Follows (lookUpStatistics sql collectStatistics limit) t (.ok row)) :
    ∃ told : Except Failure (List Row),
      t.exchanges =
          (if collectStatistics then [⟨.queryStatistics, statisticsCall sql, told⟩] else []) ∧
        t.readings = [] ∧
        row = if collectStatistics then firstRow told else [] := by
  unfold lookUpStatistics at hf
  cases collectStatistics with
  | false =>
    obtain ⟨rfl, hrow⟩ := Task.follows_pure.mp hf
    cases hrow
    exact ⟨.ok [], rfl, rfl, rfl⟩
  | true =>
    obtain ⟨_, _, found, rfl, hfound, hrest⟩ := Task.follows_ok_bind hf
    obtain ⟨rfl, hrow⟩ := Task.follows_pure.mp hrest
    obtain ⟨outcome, notes, rfl, hr⟩ := Task.follows_bestEffort hl hfound
    cases hrow
    refine ⟨outcome, by simp, by simp, ?_⟩
    have hoption : found = outcome.toOption := by
      match outcome with
      | .ok rows =>
        cases hr
        rfl
      | .error .cancelled => cases hr
      | .error (.invalidInput _) | .error (.advisory _) | .error (.fatal _ _)
      | .error (.transient _ _) | .error (.driver _) | .error (.value _) =>
        cases hr
        rfl
    rw [hoption]
    rfl

section

variable [Quantity ν]

/-- A measured run that gives figures gives those of what it learned. -/
theorem follows_measure {sql : String} {collectStatistics : Bool} {limit : TimeLimit}
    {t : Trace ν} {m : Metrics ν}
    (hf : Task.Follows (measure sql collectStatistics limit) t (.ok m)) :
    ∃ o : Observation ν, t.exchanges = o.exchanges sql collectStatistics ∧
      t.readings = o.readings ∧ o.Reports collectStatistics m := by
  unfold measure at hf
  obtain ⟨_, _, plan, rfl, hplan, hf⟩ := Task.follows_ok_bind hf
  obtain ⟨_, _, started, rfl, hstarted, hf⟩ := Task.follows_ok_bind hf
  obtain ⟨_, _, rows, rfl, hrows, hf⟩ := Task.follows_ok_bind hf
  obtain ⟨_, _, ended, rfl, hended, hf⟩ := Task.follows_ok_bind hf
  obtain ⟨t₅, _, row, rfl, hrow, hf⟩ := Task.follows_ok_bind hf
  rw [Plan.retrieve_eq] at hplan
  obtain ⟨_, t₁, document, rfl, hdocument, hread⟩ := Task.follows_ok_bind hplan
  obtain ⟨hl, rfl⟩ := Task.follows_mandatory_ok hdocument
  obtain ⟨hread₁, hread₂, hinterpreted⟩ := Plan.yields_readReply .actual _ document _ _ hread
  obtain ⟨_, rfl, hx⟩ := Task.follows_readClock.mp hstarted
  obtain ⟨-, rfl⟩ := Task.follows_mandatory_ok hrows
  obtain ⟨_, rfl, hy⟩ := Task.follows_readClock.mp hended
  obtain ⟨told, htold, hsilent, rfl⟩ := follows_lookUpStatistics hl hrow
  obtain ⟨rfl, hfigures⟩ := Task.follows_ofValue_ok hf
  cases hinterpreted
  cases hx
  cases hy
  refine ⟨⟨document, started, rows, ended, told⟩, ?_, ?_, ?_⟩
  · simp [Observation.exchanges, hread₁, htold]
  · simp [Observation.readings, hread₂, hsilent]
  · exact Observation.reports_of_figures hfigures

/-- The measured runs of a benchmark, one after the other. -/
theorem follows_measurements {sql : String} {collectStatistics : Bool} {limit : TimeLimit}
    {n : Nat} {t : Trace ν} {runs : List (Metrics ν)}
    (hf : Task.Follows (measurements sql collectStatistics limit n) t (.ok runs)) :
    ∃ os : List (Observation ν), os.length = n ∧
      t.exchanges = os.flatMap (Observation.exchanges sql collectStatistics) ∧
      t.readings = os.flatMap Observation.readings ∧
      List.Forall₂ (Observation.Reports collectStatistics) os runs := by
  induction n generalizing t runs with
  | zero =>
    obtain ⟨rfl, hr⟩ := Task.follows_pure.mp hf
    cases hr
    exact ⟨[], rfl, rfl, rfl, .nil⟩
  | succ n ih =>
    obtain ⟨t₁, _, run, rfl, hrun, hf⟩ := Task.follows_ok_bind hf
    obtain ⟨t₂, _, others, rfl, hothers, hf⟩ := Task.follows_ok_bind hf
    obtain ⟨rfl, hr⟩ := Task.follows_pure.mp hf
    cases hr
    obtain ⟨o, hexchanges, hreadings, hreports⟩ := follows_measure hrun
    obtain ⟨os, hlength, hexchanges', hreadings', hreports'⟩ := ih hothers
    refine ⟨o :: os, by rw [List.length_cons, hlength], ?_, ?_, .cons hreports hreports'⟩
    · rw [List.append_nil, Trace.exchanges_append, hexchanges, hexchanges', List.flatMap_cons]
    · rw [List.append_nil, Trace.readings_append, hreadings, hreadings', List.flatMap_cons]

/-- The round trips and readings of a benchmark that gave figures: whatever it does first, and
then the measured runs. -/
structure Measured (sql : String) (p : Protocol) (t : Trace ν) (os : List (Observation ν)) :
    Prop where
  count : (os.length : Int) = p.iterations
  exchanges : ∃ before : List Exchange,
    (∀ e ∈ before, e.stage = .sessionStatistics ∨ e.stage = .warmup) ∧
      t.exchanges = before ++ os.flatMap (Observation.exchanges sql p.collectStatistics)
  readings : t.readings = os.flatMap Observation.readings

theorem follows_benchmark {query : String} {p : Protocol} {t : Trace ν} {m : Metrics ν}
    (hf : Task.Follows (benchmark query p) t (.ok m)) :
    ∃ first others run runs,
      Measured (Query.substitutePlaceholders query) p t (first :: others) ∧
        List.Forall₂ (Observation.Reports p.collectStatistics) (first :: others) (run :: runs) ∧
        average run runs = .ok m := by
  rw [benchmark_eq] at hf
  rcases Task.follows_ofInput_bind hf with ⟨_, hcheck, hf⟩ | ⟨_, -, -, hr⟩
  · obtain ⟨t₁, _, _, rfl, hswitch, hf⟩ := Task.follows_ok_bind hf
    obtain ⟨t₂, _, _, rfl, hwarm, hf⟩ := Task.follows_ok_bind hf
    obtain ⟨t₃, _, runs, rfl, hruns, hf⟩ := Task.follows_ok_bind hf
    obtain ⟨hstages, hsilent⟩ := follows_switchStatistics hswitch
    have hwarmed := follows_warmUps hwarm
    obtain ⟨os, hlength, hexchanges, hreadings, hreports⟩ := follows_measurements hruns
    have hpositive := Protocol.iterations_of_check hcheck
    cases hreports with
    | nil => exact absurd hlength.symm hpositive
    | cons hfirst hothers =>
      obtain ⟨rfl, haverage⟩ := Task.follows_ofValue_ok hf
      refine ⟨_, _, _, _, ⟨by omega, ⟨t₁.exchanges ++ t₂.exchanges, ?_, ?_⟩, ?_⟩,
        .cons hfirst hothers, haverage⟩
      · intro e he
        exact (List.mem_append.mp he).imp (hstages e) (hwarmed.stages e)
      · simp [hexchanges]
      · simp [hsilent, hwarmed.readings, hreadings]
  · cases hr

end

namespace Observation

def cost (o : Observation ν) : Exact :=
  match Plan.read .actual (o.document.getD "") with
  | .plan e => e.estimatedCost.toRat?
  | _ => some 0

theorem cost_eq (o : Observation ν) : o.cost = o.plan.estimatedCost.toRat? := by
  unfold cost plan Plan.interpret
  cases Plan.read .actual (o.document.getD "") <;> rfl

def meanTold (collectStatistics : Bool) (column : String) (os : List (Observation ν)) :
    Except ValueFault Exact :=
  (os.mapM fun o => Exact.ofCell (o.cell collectStatistics column)).map Exact.mean

end Observation

structure Metrics.Describes (m : Metrics Exact) (collectStatistics : Bool) (c : Nat → Rat)
    (first : Observation Exact) (others : List (Observation Exact)) : Prop where
  executionTimeMs : m.executionTimeMs =
    some (1000 / (others.length + 1 : Nat) *
      ∑ i ∈ Finset.range (others.length + 1), (c (2 * i + 1) - c (2 * i)))
  rowsReturned : m.rowsReturned =
    some (((first :: others).map fun o => (o.rows.length : Rat)).sum / (others.length + 1 : Nat))
  estimatedPlanCost : m.estimatedPlanCost = Exact.mean ((first :: others).map Observation.cost)
  cpuTimeMs : (Observation.meanTold collectStatistics "avg_cpu_time_us" (first :: others)).map
    (Option.map (· / 1000)) = .ok m.cpuTimeMs
  logicalReads :
    Observation.meanTold collectStatistics "avg_logical_reads" (first :: others) =
      .ok m.logicalReads
  physicalReads :
    Observation.meanTold collectStatistics "avg_physical_reads" (first :: others) =
      .ok m.physicalReads
  rowsScanned :
    Observation.meanTold collectStatistics "avg_rows" (first :: others) = .ok m.rowsScanned
  executionPlan : m.executionPlan = first.plan.document
  planReuseCount : (first.cell collectStatistics "execution_count").intOrZero.map
    (fun executions => max (executions - 1) 0) = .ok m.planReuseCount
  isPlanCached : m.isPlanCached = decide (0 < m.planReuseCount)

theorem map_elapsed {α : Type} (f : ν → ν → α) {os : List (Observation ν)} {clock : Nat → ν}
    {a k : Nat} (h : os.flatMap Observation.readings = (List.range' a k).map clock) :
    (os.map fun o => f o.started o.ended) =
      (List.range os.length).map fun i => f (clock (a + 2 * i)) (clock (a + (2 * i + 1))) := by
  induction os generalizing a k with
  | nil => rfl
  | cons o os ih =>
    obtain ⟨k, rfl⟩ : ∃ n, k = n + 2 := by
      have hlength := congrArg List.length h
      simp [Observation.readings] at hlength
      exact ⟨k - 2, by omega⟩
    rw [List.range'_succ, List.range'_succ, List.map_cons, List.map_cons, List.flatMap_cons] at h
    obtain ⟨hstarted, h⟩ := List.cons.inj h
    obtain ⟨hended, hrest⟩ := List.cons.inj h
    rw [List.map_cons, List.length_cons, List.range_succ_eq_map, List.map_cons, List.map_map,
      ih hrest, hstarted, hended]
    refine congrArg _ (List.map_congr_left fun i _ => ?_)
    show f (clock (a + 1 + 1 + 2 * i)) (clock (a + 1 + 1 + (2 * i + 1))) =
      f (clock (a + 2 * (i + 1))) (clock (a + (2 * (i + 1) + 1)))
    rw [show a + 1 + 1 + 2 * i = a + 2 * (i + 1) by omega,
      show a + 1 + 1 + (2 * i + 1) = a + (2 * (i + 1) + 1) by omega]

section

variable {collectStatistics : Bool} {column : String} {os : List (Observation Exact)}
  {runs : List (Metrics Exact)} {figure : Metrics Exact → Exact}

theorem meanTold_eq (h : List.Forall₂ (Observation.Reports collectStatistics) os runs)
    (hfigure : ∀ (o : Observation Exact) (m : Metrics Exact), o.Reports collectStatistics m →
      Exact.ofCell (o.cell collectStatistics column) = .ok (figure m)) :
    Observation.meanTold collectStatistics column os = .ok (Exact.mean (runs.map figure)) := by
  have hconverted (o : Observation Exact) (m : Metrics Exact)
      (hreports : o.Reports collectStatistics m) :
      (Exact.ofCell (o.cell collectStatistics column)).map id = .ok (figure m) := by
    rw [hfigure o m hreports]
    rfl
  obtain ⟨values, hvalues, hmap⟩ := mapM_of_forall₂ h hconverted
  rw [Observation.meanTold, hvalues, hmap, List.map_id]
  rfl

theorem meanTold_thousandth (h : List.Forall₂ (Observation.Reports collectStatistics) os runs)
    (hfigure : ∀ (o : Observation Exact) (m : Metrics Exact), o.Reports collectStatistics m →
      (Exact.ofCell (o.cell collectStatistics column)).map Quantity.thousandth =
        .ok (figure m)) :
    (Observation.meanTold collectStatistics column os).map (Option.map (· / 1000)) =
      .ok (Exact.mean (runs.map figure)) := by
  obtain ⟨values, hvalues, hmap⟩ := mapM_of_forall₂ h hfigure
  rw [Observation.meanTold, hvalues, hmap, Exact.mean_thousandth]
  rfl

end

/-- Exact means never fail, so the figures are known. -/
theorem describes_of_reports {collectStatistics : Bool} {c : Nat → Rat} {clock : Nat → Exact}
    {a k : Nat} {first : Observation Exact} {others : List (Observation Exact)}
    {run m : Metrics Exact} {runs : List (Metrics Exact)}
    (hclock : ∀ i, clock (a + i) = some (c i))
    (hreadings : (first :: others).flatMap Observation.readings = (List.range' a k).map clock)
    (h : List.Forall₂ (Observation.Reports collectStatistics) (first :: others) (run :: runs))
    (hm : average run runs = .ok m) : m.Describes collectStatistics c first others := by
  have hfirst : first.Reports collectStatistics run := by
    cases h with
    | cons hfirst _ => exact hfirst
  have htime : (run :: runs).map Metrics.executionTimeMs =
      (List.range (others.length + 1)).map fun i =>
        Quantity.thousandfold (Exact.difference (some (c (2 * i + 1))) (some (c (2 * i)))) := by
    rw [← map_eq_of_forall₂ h fun o m h => h.executionTimeMs.symm,
      map_elapsed (fun started ended => Quantity.thousandfold (Quantity.difference ended started))
        hreadings]
    refine List.map_congr_left fun i _ => ?_
    rw [hclock, hclock]
    rfl
  have hrows : (run :: runs).map Metrics.rowsReturned =
      ((first :: others).map fun o => (o.rows.length : Rat)).map some := by
    rw [← map_eq_of_forall₂ h fun o m h => h.rowsReturned.symm, List.map_map]
    rfl
  have hcost : (run :: runs).map Metrics.estimatedPlanCost =
      (first :: others).map Observation.cost :=
    (map_eq_of_forall₂ h fun o m h => o.cost_eq.trans h.estimatedPlanCost.symm).symm
  cases hm
  exact {
    executionTimeMs := by
      show Exact.mean ((run :: runs).map Metrics.executionTimeMs) = _
      rw [htime, Exact.mean_elapsed]
    rowsReturned := by
      show Exact.mean ((run :: runs).map Metrics.rowsReturned) = _
      rw [hrows, Exact.mean_some, List.length_map, List.length_cons]
    estimatedPlanCost := congrArg Exact.mean hcost
    cpuTimeMs := meanTold_thousandth h fun o m h => h.cpuTimeMs
    logicalReads := meanTold_eq h fun o m h => h.logicalReads
    physicalReads := meanTold_eq h fun o m h => h.physicalReads
    rowsScanned := meanTold_eq h fun o m h => h.rowsScanned
    executionPlan := hfirst.executionPlan
    planReuseCount := hfirst.planReuseCount
    isPlanCached := hfirst.isPlanCached }

/-- Surroundings in which two tasks read one clock, and in which their round trips are answered
alike, the warm-ups of the first task left out. -/
structure AlikeUnwarmedIn {α : Type} (s : Surroundings σ ν) (w : World σ) (task : Task ν α)
    (s' : Surroundings τ ν) (w' : World τ) (task' : Task ν α) : Prop where
  clock : ∀ i, s.clock (w.readings + i) = s'.clock (w'.readings + i)
  alike : Alike Exchange.SameQuestion (Task.traceIn s task w).unwarmed
    (Task.traceIn s' task' w').exchanges

/-- A benchmark describes its measured runs. In exact numbers, whatever it gives is made of what
they learned, and of nothing else. In any numbers, a warm-up that is refused ends it, and if none
is refused, it comes to the same without warm-ups. -/
theorem benchmark_reports_measured_runs (query : String) (p : Protocol) :
    (∀ (σ : Type) (s : Surroundings σ Exact) (w : World σ) (c : Nat → Rat) (m : Metrics Exact),
      (∀ i, s.clock (w.readings + i) = some (c i)) →
      (Task.runIn s (benchmark query p) w).result = .ok m →
      ∃ first others,
        Measured (Query.substitutePlaceholders query) p (Task.traceIn s (benchmark query p) w)
            (first :: others) ∧
          m.Describes p.collectStatistics c first others) ∧
    ∀ (ν : Type) [Quantity ν] (σ τ : Type) (s : Surroundings σ ν) (w : World σ)
      (s' : Surroundings τ ν) (w' : World τ), 0 ≤ p.warmup →
      AlikeUnwarmedIn s w (benchmark query p) s' w' (benchmark query p.unwarmed) →
      (∀ failure, (Task.traceIn s (benchmark query p) w).RefusesWarmUp failure →
        (Task.runIn s (benchmark query p) w).result = .error failure) ∧
      ((∀ failure, ¬ (Task.traceIn s (benchmark query p) w).RefusesWarmUp failure) →
        (Task.runIn s (benchmark query p) w).result =
          (Task.runIn s' (benchmark query p.unwarmed) w').result) := by
  constructor
  · intro σ s w c m hclock hm
    have hf := Task.runIn_follows s (benchmark query p : Task Exact (Metrics Exact)) w
    rw [hm] at hf
    obtain ⟨first, others, run, runs, hmeasured, hreports, haverage⟩ := follows_benchmark hf
    have hreadings := hmeasured.readings.symm.trans (Interaction.trace_readings s _ w)
    exact ⟨first, others, hmeasured, describes_of_reports hclock hreadings hreports haverage⟩
  · intro ν _ σ τ s w s' w' hp h
    have hf := Task.runIn_follows s (benchmark query p : Task ν (Metrics ν)) w
    have hf' := Task.runIn_follows s' (benchmark query p.unwarmed : Task ν (Metrics ν)) w'
    constructor
    · rintro failure ⟨e, he, -, hdecides⟩
      exact (conducts_benchmark query p _ _ hf).decided e he failure hdecides
    · intro hrefuses
      have halike : (Task.traceIn s (benchmark query p) w).AlikeUnwarmed
          (Task.traceIn s' (benchmark query p.unwarmed) w') := by
        refine ⟨h.alike, ?_⟩
        rw [Task.traceIn, Task.traceIn, Interaction.trace_readings s,
          Interaction.trace_readings s']
        exact alike_readings h.clock _ _
      rcases follows_unwarmed hp hf hf' halike with ⟨failure, hr, -⟩ | ⟨-, -, hresult⟩
      · exact absurd hr (hrefuses failure)
      · exact hresult

def ordersReply : (c : Call) → c.Answer
  | .openSession _ => ()
  | .fetchAll _ [] => [[("Id", .integer 1)], [("Id", .integer 2)]]
  | .fetchAll _ (_ :: _) => [[("execution_count", .integer 3), ("avg_cpu_time_us", .integer 1500)]]
  | .execute _ => ()
  | .fetchPlan _ _ => some "<Plan EstimatedTotalSubtreeCost=\"1.5\"/>"
  | .close => ()

def ordersServer (failing : List Nat) (failure : Failure) : Server Nat where
  respond n c := (⟨some .zero, if n ∈ failing then .error failure else .ok (ordersReply c)⟩, n + 1)

/-- A warm-up that is denied leaves no mark on the figures of the two runs after it. -/
theorem denied_warmup_is_not_measured :
    let s : Surroundings Nat Exact := ⟨ordersServer [1] (.driver .denied), fun i => some i⟩
    let s' : Surroundings Nat Exact := ⟨ordersServer [] .cancelled, fun i => some i⟩
    let w := World.start 0 0 none
    let p : Protocol := { iterations := 2 }
    (∃ m first others, (Task.runIn s (benchmark "SELECT 1" p) w).result = .ok m ∧
      Measured "SELECT 1" p (Task.traceIn s (benchmark "SELECT 1" p) w) (first :: others) ∧
      m.Describes p.collectStatistics (fun i => i) first others) ∧
    (Task.runIn s (benchmark "SELECT 1" p) w).result =
      (Task.runIn s' (benchmark "SELECT 1" p.unwarmed) w).result := by
  intro s s' w p
  have hresult : (Task.runIn s (benchmark "SELECT 1" p) w).result.isOk = true := by
    decide +kernel
  have halike : (Task.traceIn s (benchmark "SELECT 1" p) w).unwarmed =
      (Task.traceIn s' (benchmark "SELECT 1" p.unwarmed) w).exchanges := by decide +kernel
  have hdenied : ∀ e ∈ (Task.traceIn s (benchmark "SELECT 1" p) w).exchanges,
      e.failure?.getD (.driver .denied) = .driver .denied := by decide +kernel
  have hsql : Query.substitutePlaceholders "SELECT 1" = "SELECT 1" := by decide +kernel
  obtain ⟨hreports, hunwarmed⟩ := benchmark_reports_measured_runs "SELECT 1" p
  constructor
  · cases hm : (Task.runIn s (benchmark "SELECT 1" p) w).result with
    | error failure =>
      rw [hm] at hresult
      cases hresult
    | ok m =>
      obtain ⟨first, others, hmeasured, hdescribes⟩ :=
        hreports Nat s w (fun i => i) m (fun i => by simp [s, w, World.start]) hm
      rw [hsql] at hmeasured
      exact ⟨m, first, others, rfl, hmeasured, hdescribes⟩
  · refine (hunwarmed Exact Nat Nat s w s' w (by decide) ⟨fun _ => rfl, ?_⟩).2 ?_
    · rw [halike]
      exact Alike.refl _
    · rintro failure ⟨e, he, -, hf, hd⟩
      have hdriver := hdenied e he
      rw [hf] at hdriver
      obtain rfl : failure = .driver .denied := hdriver
      cases hd

/-- A warm-up that is refused as input ends the benchmark, which succeeds without it. -/
theorem refused_warmup_ends_benchmark :
    let s : Surroundings Nat Exact :=
      ⟨ordersServer [1] (.invalidInput (.reported "statement refused")), fun i => some i⟩
    let s' : Surroundings Nat Exact := ⟨ordersServer [] .cancelled, fun i => some i⟩
    let w := World.start 0 0 none
    let p : Protocol := { iterations := 1 }
    AlikeUnwarmedIn s w (benchmark "SELECT 1" p) s' w (benchmark "SELECT 1" p.unwarmed) ∧
      (Task.runIn s (benchmark "SELECT 1" p) w).result ≠
        (Task.runIn s' (benchmark "SELECT 1" p.unwarmed) w).result := by
  intro s s' w p
  have hexchanges : (Task.traceIn s (benchmark "SELECT 1" p) w).unwarmed =
      (Task.traceIn s' (benchmark "SELECT 1" p.unwarmed) w).exchanges.take 1 := by decide +kernel
  have hfailed : (Task.runIn s (benchmark "SELECT 1" p) w).result.isOk = false := by
    decide +kernel
  have hok : (Task.runIn s' (benchmark "SELECT 1" p.unwarmed) w).result.isOk = true := by
    decide +kernel
  constructor
  · refine ⟨fun _ => rfl, ?_⟩
    rw [hexchanges]
    generalize (Task.traceIn s' (benchmark "SELECT 1" p.unwarmed) w).exchanges = es
    have hrefl : Alike Exchange.SameQuestion (es.take 1 ++ es.drop 1) (es ++ []) := by
      rw [List.take_append_drop, List.append_nil]
      exact Alike.refl es
    exact hrefl.left
  · intro hsame
    rw [hsame, hok] at hfailed
    cases hfailed

end Measure

end QueryTuning
