import QueryTuning.Proofs.Analysis.CallPlan
import QueryTuning.Proofs.Index.Catalog
import QueryTuning.Proofs.Session.Mandatory

/-!
# Stages with expected replies

If the replies of a server are of the sort that each stage expects, no stage of
an analysis fails by itself: no conversion fails, no mean leaves the format,
and only a mandatory round trip that failed can stop it.
-/

set_option autoImplicit false

namespace QueryTuning

open Binary64 QueryTuning.Measure

def Stage.Accepts : Stage → List Row → Prop
  | .queryStatistics, rows => ∀ row ∈ rows, Measure.IsStatistics row
  | .indexUsage, rows => ∀ row ∈ rows, Index.IsUsage row
  | .indexCatalog, rows => ∀ row ∈ rows, Index.IsCatalogRow row
  | _, _ => True

/-- An answer of the expected sort, if there is one: rows that the stage accepts, and no more
than a list can hold, or a plan of moderate cost. -/
structure Exchange.WellTyped (e : Exchange) : Prop where
  rows : ∀ rows, e.rows? = some rows → rows.length < listBound ∧ e.stage.Accepts rows
  plan : ∀ mode document, e.plan? = some (mode, document) →
    (Plan.interpret mode (document.getD "")).estimatedCost.Within readingBound

abbrev Exchange.IsEmpty (e : Exchange) : Prop :=
  e.rows?.getD [] = [] ∧ (e.plan?.bind Prod.snd) = none ∧ e.failure? ≠ some .cancelled

theorem Exchange.IsEmpty.wellTyped {e : Exchange} (h : e.IsEmpty) : e.WellTyped := by
  obtain ⟨hrows, hplan, -⟩ := h
  constructor
  · intro rows hr
    rw [hr] at hrows
    obtain rfl : rows = [] := hrows
    refine ⟨by decide, ?_⟩
    cases e.stage <;> simp [Stage.Accepts]
  · intro mode document hp
    rw [hp] at hplan
    obtain rfl : document = none := hplan
    exact within_zero (by norm_num [readingBound])

namespace Analysis

abbrev Regular (t : Trace Binary64) : Prop :=
  t.Regular Exchange.WellTyped (Within readingBound) listBound

abbrev Steady {α : Type} (limit : TimeLimit) (Q : α → Prop) (task : Task Binary64 α) : Prop :=
  Task.Steady Exchange.WellTyped (Within readingBound) listBound limit Q task

end Analysis

open Analysis

variable {limit : TimeLimit}

namespace Plan

theorem steady_retrieve {stage : Stage} (mode : Mode) (remark sql : String)
    (hl : limit.isSpent = false) (hs : stage.isMandatory = true) :
    Steady limit (fun e => e.estimatedCost.Within readingBound)
      (retrieve stage mode remark sql limit) := by
  rw [retrieve_eq]
  apply Task.steady_bind (Task.steady_mandatory hl hs)
  intro document hdocument
  have hcost := hdocument.plan mode document rfl
  exact Task.steady_of_yields (yields_readReply mode remark document) hcost

end Plan

namespace Measure

theorem steady_switchStatistics (p : Protocol) (hl : p.limit.isSpent = false) :
    Steady p.limit (fun _ => True) (switchStatistics p) := by
  unfold switchStatistics
  split
  · apply Task.steady_bind (Task.steady_bestEffort hl rfl)
    exact fun _ _ => Task.steady_pure trivial
  · exact Task.steady_pure trivial

theorem steady_warmUps (sql : String) (hl : limit.isSpent = false) (n : Nat) :
    Steady limit (fun _ => True) (warmUps sql limit n) := by
  induction n with
  | zero => exact Task.steady_pure trivial
  | succ n ih => exact Task.steady_bind (Task.steady_onFatal hl rfl) fun _ _ => ih

theorem isStatistics_head {rows : List Row} (h : ∀ row ∈ rows, IsStatistics row) :
    IsStatistics (rows.head?.getD []) := by
  cases rows with
  | nil => exact isStatistics_nil
  | cons row rows => exact h row List.mem_cons_self

theorem isStatistics_found {sql : String} {found : Option (List Row)}
    (h : ∀ rows ∈ found,
      (Exchange.mk .queryStatistics (statisticsCall sql) (.ok rows)).WellTyped) :
    IsStatistics ((found.getD []).head?.getD []) := by
  cases found with
  | none => exact isStatistics_nil
  | some rows => exact isStatistics_head ((h rows rfl).rows rows rfl).2

theorem steady_lookUpStatistics (sql : String) (collectStatistics : Bool)
    (hl : limit.isSpent = false) :
    Steady limit IsStatistics (lookUpStatistics sql collectStatistics limit) := by
  unfold lookUpStatistics
  split
  · apply Task.steady_bind (Task.steady_bestEffort hl rfl)
    intro found h
    exact Task.steady_pure (isStatistics_found h)
  · exact Task.steady_pure isStatistics_nil

structure Metrics.Moderate (m : Metrics Binary64) : Prop where
  told : m.ToldWithin
  measured : m.measured.Within

theorem steady_measure (sql : String) (collectStatistics : Bool) (hl : limit.isSpent = false) :
    Steady limit Metrics.Moderate (measure sql collectStatistics limit) := by
  apply Task.steady_bind (Plan.steady_retrieve .actual _ sql hl rfl)
  intro plan hcost
  apply Task.steady_bind Task.steady_readClock
  intro started hstarted
  apply Task.steady_bind (Task.steady_mandatory hl rfl)
  intro rows htyped
  have hrows := (htyped.rows rows rfl).1
  apply Task.steady_bind Task.steady_readClock
  intro ended hended
  apply Task.steady_bind (steady_lookUpStatistics sql collectStatistics hl)
  intro statistics hstatistics
  obtain ⟨m, hm, htold, hmeasured⟩ :=
    figures_ok plan (Quantity.difference ended started) rows.length hstatistics
  apply Task.steady_ofValue hm
  refine ⟨htold, ?_⟩
  rw [hmeasured]
  exact measured_within plan.document hstarted hended hrows hcost

theorem steady_measurements (sql : String) (collectStatistics : Bool)
    (hl : limit.isSpent = false) (n : Nat) :
    Steady limit (fun runs => ∀ m ∈ runs, m.Moderate)
      (measurements sql collectStatistics limit n) := by
  induction n with
  | zero => exact Task.steady_pure (by simp)
  | succ n ih =>
    apply Task.steady_bind (steady_measure sql collectStatistics hl)
    intro run hrun
    apply Task.steady_bind ih
    intro runs hruns
    exact Task.steady_pure (List.forall_mem_cons.mpr ⟨hrun, hruns⟩)

theorem le_length_runsCalls (sql : String) (collectStatistics : Bool) (n : Nat) :
    n ≤ (runsCalls sql collectStatistics n).length := by
  induction n with
  | zero => exact Nat.le_refl 0
  | succ n ih =>
    rw [runsCalls, runCalls, List.length_append, List.length_append]
    simp only [List.length_cons, List.length_nil]
    omega

/-- A run whose calls a list can hold has measured no more often than that. -/
theorem length_lt_of_measurements {sql : String} {collectStatistics : Bool} {n bound : Nat}
    {t : Trace Binary64} {runs : List (Metrics Binary64)} (hl : limit.isSpent = false)
    (hf : Task.Follows (measurements sql collectStatistics limit n) t (.ok runs))
    (ht : t.exchanges.length < bound) : runs.length < bound := by
  have hcalls := (makes_measurements sql collectStatistics hl n _ _ hf).2.2 runs rfl
  have hlength : t.exchanges.length = (runsCalls sql collectStatistics n).length := by
    rw [← hcalls, Trace.calls, List.length_map]
  have hle := le_length_runsCalls sql collectStatistics n
  have hruns := length_of_measurements hf
  omega

theorem average_ok {first : Metrics Binary64} {others : List (Metrics Binary64)}
    (h : ∀ m ∈ first :: others, m.Moderate) (hn : (first :: others).length < listBound) :
    ∃ m, average first others = .ok m := by
  have hmeasured : ∀ m ∈ first.measured :: others.map Metrics.measured, m.Within := by
    rw [← List.map_cons]
    intro m hm
    obtain ⟨run, hrun, rfl⟩ := List.mem_map.mp hm
    exact (h run hrun).measured
  obtain ⟨mean, hmean⟩ := meanMeasured_ok hmeasured (by simpa using hn)
  have haverage := average_measured (fun m hm => (h m hm).told) hn
  rw [hmean] at haverage
  cases hresult : average first others with
  | ok m => exact ⟨m, rfl⟩
  | error fault =>
    rw [hresult] at haverage
    cases haverage

theorem steady_averaged (sql : String) (collectStatistics : Bool) (hl : limit.isSpent = false)
    {n : Nat} (hn : n ≠ 0) :
    Steady limit (fun _ => True)
      (measurements sql collectStatistics limit n >>= averageOf) := by
  have hbounded : Steady limit
      (fun runs => runs.length = n ∧ runs.length < listBound ∧ ∀ m ∈ runs, m.Moderate)
      (measurements sql collectStatistics limit n) := by
    intro t r hf ht
    rcases steady_measurements sql collectStatistics hl n t r hf ht with
      ⟨runs, rfl, hruns, hnone⟩ | hstop
    · have hlength := length_of_measurements hf
      have hbound := length_lt_of_measurements hl hf ht.length
      exact Or.inl ⟨runs, rfl, ⟨hlength, hbound, hruns⟩, hnone⟩
    · exact Or.inr hstop
  apply Task.steady_bind hbounded
  rintro runs ⟨hlength, hbound, hruns⟩
  cases runs with
  | nil => exact absurd hlength.symm hn
  | cons first others =>
    obtain ⟨m, hm⟩ := average_ok hruns hbound
    exact Task.steady_ofValue hm trivial

theorem Protocol.check_ok {p : Protocol} {query : String} (hi : 1 ≤ p.iterations)
    (hw : 0 ≤ p.warmup) (hq : isBlankString query = false) : p.check query = .ok () := by
  unfold Protocol.check
  rw [if_neg (by omega), if_neg (by omega), if_neg (by simp [hq])]

theorem steady_benchmark {query : String} {p : Protocol} (hl : p.limit.isSpent = false)
    (hp : p.check query = .ok ()) : Steady p.limit (fun _ => True) (benchmark query p) := by
  have hcheck : Steady p.limit (fun _ => True) (Task.ofInput (p.check query)) :=
    Task.steady_ofInput hp trivial
  rw [benchmark_eq]
  apply Task.steady_bind hcheck
  intro _ _
  apply Task.steady_bind (steady_switchStatistics p hl)
  intro _ _
  apply Task.steady_bind (steady_warmUps _ hl _)
  intro _ _
  exact steady_averaged _ _ hl (Protocol.iterations_of_check hp)

end Measure

namespace Index

theorem steady_estimatedPlan (query : String) (hl : limit.isSpent = false) :
    Steady limit (fun _ => True) (estimatedPlan query limit) :=
  Task.steady_mono (Plan.steady_retrieve .estimated _ _ hl rfl) fun _ _ => trivial

theorem isUsage_found {r : Redundant} {found : Option (List Row)}
    (h : ∀ rows ∈ found, (Exchange.mk .indexUsage (usageCall r) (.ok rows)).WellTyped) :
    ∀ row ∈ found.getD [], IsUsage row := by
  cases found with
  | none => simp
  | some rows => exact ((h rows rfl).rows rows rfl).2

theorem steady_lookUpUsage (hl : limit.isSpent = false) (r : Redundant) :
    Steady limit (fun _ => True) (lookUpUsage limit r) := by
  apply Task.steady_bind (Task.steady_bestEffort hl rfl)
  intro found h
  obtain ⟨r', hr, -⟩ := withUsage_ok (isUsage_found h) r
  exact Task.steady_ofValue hr trivial

theorem steady_lookUpUsages (hl : limit.isSpent = false) (rs : List Redundant) :
    Steady limit (fun _ => True) (lookUpUsages limit rs) := by
  induction rs with
  | nil => exact Task.steady_pure trivial
  | cons r rs ih =>
    apply Task.steady_bind (steady_lookUpUsage hl r)
    intro _ _
    exact Task.steady_bind ih fun _ _ => Task.steady_pure trivial

theorem steady_redundantOf (table : String) (hl : limit.isSpent = false) :
    Steady limit (fun _ => True) (redundantOf table limit) := by
  apply Task.steady_bind (Task.steady_mandatory hl rfl)
  intro reply htyped
  obtain ⟨found, hfound⟩ := findRedundant_ok (htyped.rows reply rfl).2
  have hconversion : Steady limit (fun _ => True) (Task.ofValue (findRedundant reply)) :=
    Task.steady_ofValue hfound trivial
  exact Task.steady_bind hconversion fun found _ => steady_lookUpUsages hl found

theorem steady_redundantOfAll (hl : limit.isSpent = false) (tables : List String) :
    Steady limit (fun _ => True) (redundantOfAll limit tables) := by
  induction tables with
  | nil => exact Task.steady_pure trivial
  | cons table tables ih =>
    apply Task.steady_bind (steady_redundantOf table hl)
    intro _ _
    exact Task.steady_bind ih fun _ _ => Task.steady_pure trivial

theorem steady_redundantFor (query : String) (hl : limit.isSpent = false) :
    Steady limit (fun _ => True) (redundantFor query limit) := by
  rw [redundantFor_eq]
  have hremark : Steady limit (fun _ => True) (remarkIfNoTables (Query.tablesOf query)) :=
    Task.steady_of_yields (yields_remarkIfNoTables _) trivial
  apply Task.steady_bind hremark
  intro _ _
  exact steady_redundantOfAll hl _

theorem steady_survey (query : String) (hl : limit.isSpent = false) :
    Steady limit (fun _ => True) (survey query limit) := by
  apply Task.steady_bind (steady_estimatedPlan query hl)
  intro _ _
  exact Task.steady_bind (steady_redundantFor query hl) fun _ _ => Task.steady_pure trivial

end Index

def Analyzer.unlimited : Analyzer :=
  ⟨{ commandTimeoutSeconds := .zero }, Query.Dialect.permissive⟩

def stillClock : Nat → Binary64 := fun _ => .zero

def DriverError.denied : DriverError := ⟨.permission, "permission denied"⟩

namespace Analysis

theorem steady_serverInfo (hl : limit.isSpent = false) :
    Steady limit (fun _ => True) (serverInfo limit) :=
  Task.steady_bind (Task.steady_bestEffort hl rfl) fun _ _ => Task.steady_pure trivial

theorem steady_compare {baseline optimized : String} {p : Measure.Protocol}
    (hl : p.limit.isSpent = false) (hb : p.check baseline = .ok ())
    (ho : p.check optimized = .ok ()) :
    Steady p.limit (fun _ => True) (compare baseline optimized p) := by
  apply Task.steady_bind (Measure.steady_benchmark hl hb)
  intro _ _
  exact Task.steady_bind (Measure.steady_benchmark hl ho) fun _ _ => Task.steady_pure trivial

theorem Options.checks_of_validate {o : Options} {query : String} (hv : o.validate = .ok ())
    (hq : isBlankString query = false) (limit : TimeLimit) :
    (o.metricsProtocol limit).check query = .ok () ∧
      (o.comparisonProtocol limit).check query = .ok () := by
  unfold Options.validate at hv
  split at hv
  · cases hv
  split at hv
  · cases hv
  split at hv
  · cases hv
  split at hv
  · cases hv
  next hi hw =>
    have hmetrics : 1 ≤ o.metricsIterations ∧ 0 ≤ o.metricsWarmup := by omega
    have hcomparison : 1 ≤ o.comparisonIterations ∧ 0 ≤ o.comparisonWarmup := by omega
    constructor
    · exact Measure.Protocol.check_ok hmetrics.1 hmetrics.2 hq
    · exact Measure.Protocol.check_ok hcomparison.1 hcomparison.2 hq

theorem steady_metricsStage {o : Options} {query : String} (hl : limit.isSpent = false)
    (hp : (o.metricsProtocol limit).check query = .ok ()) :
    Steady limit (fun _ => True) (metricsStage o query limit) := by
  unfold metricsStage
  split
  · have hbenchmark : Steady limit (fun _ => True)
        (Measure.benchmark query (o.metricsProtocol limit)) := Measure.steady_benchmark hl hp
    exact Task.steady_bind hbenchmark fun _ _ => Task.steady_pure trivial
  · exact Task.steady_pure trivial

theorem steady_planStage (o : Options) (query : String) (hl : limit.isSpent = false) :
    Steady limit (fun _ => True) (planStage o query limit) := by
  unfold planStage
  split
  · exact Index.steady_estimatedPlan query hl
  · exact Task.steady_pure trivial

theorem steady_redundantStage (o : Options) (query : String) (hl : limit.isSpent = false) :
    Steady limit (fun _ => True) (redundantStage o query limit) := by
  unfold redundantStage
  split
  · exact Index.steady_redundantFor query hl
  · exact Task.steady_pure trivial

theorem steady_proposalStage (dialect : Query.Dialect) {o : Options} {query : String}
    (hl : limit.isSpent = false) (hq : (o.comparisonProtocol limit).check query = .ok ())
    (hp : (o.comparisonProtocol limit).check (proposal dialect o query) = .ok ()) :
    Steady limit (fun _ => True) (proposalStage dialect o query limit) := by
  unfold proposalStage
  split
  · have hremarks : Steady limit (fun _ => True)
        (remarkDiscarded (revision dialect query).discarded) :=
      Task.steady_of_yields (yields_remarkDiscarded _) trivial
    apply Task.steady_bind hremarks
    intro _ _
    unfold improvementStage
    split
    · have hcompare : Steady limit (fun _ => True)
          (compare query (proposal dialect o query) (o.comparisonProtocol limit)) :=
        steady_compare hl hq hp
      exact Task.steady_bind hcompare fun _ _ => Task.steady_pure trivial
    · exact Task.steady_pure trivial
  · exact Task.steady_pure trivial

theorem steady_pipeline (dialect : Query.Dialect) {o : Options} {query : String}
    (hv : o.validate = .ok ()) (hq : isBlankString query = false)
    (hp : isBlankString (proposal dialect o query) = false) (hl : limit.isSpent = false) :
    Steady limit (fun _ => True) (pipeline dialect o query limit) := by
  have hquery := Options.checks_of_validate hv hq limit
  have hproposal := Options.checks_of_validate hv hp limit
  rw [pipeline_eq dialect o limit hq]
  apply Task.steady_bind (steady_serverInfo hl)
  intro _ _
  apply Task.steady_bind (steady_metricsStage hl hquery.1)
  intro _ _
  apply Task.steady_bind (steady_planStage o query hl)
  intro _ _
  apply Task.steady_bind (steady_redundantStage o query hl)
  intro _ _
  apply Task.steady_bind (steady_proposalStage dialect hl hquery.2 hproposal.2)
  intro _ _
  exact Task.steady_pure trivial

end Analysis

end QueryTuning
