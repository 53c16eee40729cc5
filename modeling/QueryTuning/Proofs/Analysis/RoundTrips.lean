import QueryTuning.Proofs.Analysis.Steps
import QueryTuning.Proofs.Session.Composition

/-!
# Round trips of an analysis

Which call belongs to which stage. Every task of an analysis keeps to this list
between the opening and the closing of its session, for every server and every
moment of cancellation, and so every service has one session at most. The faults
that a task finds with its input are those of the checks in it.
-/

set_option autoImplicit false

namespace QueryTuning

inductive RoundTrip : Stage → Call → Prop where
  | serverInfo : RoundTrip .serverInfo (.fetchAll Analysis.serverInfoSql [])
  | sessionStatistics : RoundTrip .sessionStatistics (.execute Measure.statisticsOnSql)
  | warmup (sql : String) : RoundTrip .warmup (.fetchAll sql [])
  | actualPlan (sql : String) : RoundTrip .actualPlan (.fetchPlan sql .actual)
  | execution (sql : String) : RoundTrip .execution (.fetchAll sql [])
  | queryStatistics (sql : String) : RoundTrip .queryStatistics (Measure.statisticsCall sql)
  | estimatedPlan (sql : String) : RoundTrip .estimatedPlan (.fetchPlan sql .estimated)
  | indexCatalog (table : String) : RoundTrip .indexCatalog (Index.catalogCall table)
  | indexUsage (r : Index.Redundant) : RoundTrip .indexUsage (Index.usageCall r)

def OffCatalog (stage : Stage) (c : Call) : Prop := RoundTrip stage c ∧ stage ≠ .indexCatalog

namespace RoundTrip

theorem isRoundTrip {stage : Stage} {c : Call} (h : RoundTrip stage c) :
    c.isRoundTrip = true := by
  cases h <;> rfl

theorem of_offCatalog (stage : Stage) (c : Call) (h : OffCatalog stage c) : RoundTrip stage c :=
  h.1

end RoundTrip

variable {ν α : Type} {F : InputFault → Prop}

theorem Task.Composed.of_offCatalog {task : Task ν α} (h : Composed OffCatalog F task) :
    Composed RoundTrip F task :=
  h.mono RoundTrip.of_offCatalog fun _ hF => hF

namespace Plan

theorem composed_retrieve {P : Stage → Call → Prop} {stage : Stage} {mode : Mode} {sql : String}
    (remark : String) (limit : TimeLimit) (h : P stage (.fetchPlan sql mode)) :
    Task.Composed P F (retrieve stage mode remark sql limit : Task ν Extraction) := by
  rw [retrieve_eq]
  apply Task.composed_bind (.mandatory limit h)
  intro document
  exact Task.composed_of_yields_ok (yields_readReply mode remark document)

end Plan

namespace Measure

variable {P : Stage → Call → Prop} {sql : String}

theorem composed_switchStatistics (h : P .sessionStatistics (.execute statisticsOnSql))
    (p : Protocol) : Task.Composed P F (switchStatistics p : Task ν Unit) := by
  unfold switchStatistics
  split
  · apply Task.composed_bind (.bestEffort p.limit (by decide) h)
    intro _
    exact Task.composed_pure _
  · exact Task.composed_pure _

theorem composed_warmUp (h : P .warmup (.fetchAll sql [])) (limit : TimeLimit) :
    Task.Composed P F (warmUp sql limit : Task ν Unit) := by
  apply Task.Composed.onFatal
  apply Task.composed_bind (.mandatory limit h)
  intro _
  exact Task.composed_pure _

theorem composed_warmUps (h : P .warmup (.fetchAll sql [])) (limit : TimeLimit) (n : Nat) :
    Task.Composed P F (warmUps sql limit n : Task ν Unit) := by
  induction n with
  | zero => exact Task.composed_pure _
  | succ n ih =>
    apply Task.composed_bind (composed_warmUp h limit)
    intro _
    exact ih

structure Admits (P : Stage → Call → Prop) (sql : String) : Prop where
  actualPlan : P .actualPlan (.fetchPlan sql .actual)
  execution : P .execution (.fetchAll sql [])
  queryStatistics : P .queryStatistics (statisticsCall sql)

theorem admits_offCatalog (sql : String) : Admits OffCatalog sql where
  actualPlan := ⟨.actualPlan sql, by decide⟩
  execution := ⟨.execution sql, by decide⟩
  queryStatistics := ⟨.queryStatistics sql, by decide⟩

theorem composed_lookUpStatistics (h : P .queryStatistics (statisticsCall sql))
    (collectStatistics : Bool) (limit : TimeLimit) :
    Task.Composed P F (lookUpStatistics sql collectStatistics limit : Task ν Row) := by
  unfold lookUpStatistics
  split
  · apply Task.composed_bind (.bestEffort limit (by decide) h)
    intro _
    exact Task.composed_pure _
  · exact Task.composed_pure _

variable [Quantity ν]

theorem composed_measure (h : Admits P sql) (collectStatistics : Bool) (limit : TimeLimit) :
    Task.Composed P F (measure sql collectStatistics limit : Task ν (Metrics ν)) := by
  apply Task.composed_bind (Plan.composed_retrieve _ limit h.actualPlan)
  intro _
  apply Task.composed_bind .readClock
  intro _
  apply Task.composed_bind (.mandatory limit h.execution)
  intro _
  apply Task.composed_bind .readClock
  intro _
  apply Task.composed_bind (composed_lookUpStatistics h.queryStatistics _ limit)
  intro _
  exact Task.composed_ofValue _

theorem composed_measurements (h : Admits P sql) (collectStatistics : Bool) (limit : TimeLimit)
    (n : Nat) :
    Task.Composed P F
      (measurements sql collectStatistics limit n : Task ν (List (Metrics ν))) := by
  induction n with
  | zero => exact Task.composed_pure _
  | succ n ih =>
    apply Task.composed_bind (composed_measure h _ limit)
    intro _
    exact Task.composed_bind ih fun _ => Task.composed_pure _

/-- There is something to average, since one run at least was measured. -/
theorem composed_averaged (h : Admits P sql) (collectStatistics : Bool) (limit : TimeLimit)
    {n : Nat} (hn : n ≠ 0) :
    Task.Composed P F (measurements sql collectStatistics limit n >>= averageOf :
      Task ν (Metrics ν)) := by
  refine .sequence (composed_measurements h collectStatistics limit n) fun t runs hf => ?_
  have hlength := length_of_measurements hf
  cases runs with
  | nil => exact absurd hlength.symm hn
  | cons first others => exact Task.composed_ofValue _

/-- The faults that a benchmark finds are those of its check. -/
theorem composed_benchmark {query : String} {p : Protocol}
    (h : ∀ fault, p.check query = .error fault → F fault) :
    Task.Composed OffCatalog F (benchmark query p : Task ν (Metrics ν)) := by
  rw [benchmark_eq]
  refine Task.composed_ofInput_bind h fun _ hcheck => ?_
  apply Task.composed_bind (composed_switchStatistics ⟨.sessionStatistics, by decide⟩ p)
  intro _
  apply Task.composed_bind (composed_warmUps ⟨.warmup _, by decide⟩ _ _)
  intro _
  exact composed_averaged (admits_offCatalog _) _ _ (Protocol.iterations_of_check hcheck)

theorem conducts_benchmark (query : String) (p : Protocol) :
    Task.Conducts OffCatalog (benchmark query p : Task ν (Metrics ν)) :=
  (composed_benchmark fun _ _ => trivial).conducts

end Measure

namespace Index

theorem composed_estimatedPlan (query : String) (limit : TimeLimit) :
    Task.Composed OffCatalog F (estimatedPlan query limit : Task ν Plan.Extraction) :=
  Plan.composed_retrieve _ limit ⟨.estimatedPlan _, by decide⟩

theorem composed_lookUpUsage (limit : TimeLimit) (r : Redundant) :
    Task.Composed OffCatalog F (lookUpUsage limit r : Task ν Redundant) := by
  apply Task.composed_bind (.bestEffort limit (by decide) ⟨.indexUsage r, by decide⟩)
  intro found
  exact Task.composed_ofValue _

theorem composed_lookUpUsages (limit : TimeLimit) (rs : List Redundant) :
    Task.Composed OffCatalog F (lookUpUsages limit rs : Task ν (List Redundant)) := by
  induction rs with
  | nil => exact Task.composed_pure _
  | cons r rs ih =>
    apply Task.composed_bind (composed_lookUpUsage limit r)
    intro _
    exact Task.composed_bind ih fun _ => Task.composed_pure _

theorem composed_redundantOf (table : String) (limit : TimeLimit) :
    Task.Composed RoundTrip F (redundantOf table limit : Task ν (List Redundant)) := by
  apply Task.composed_bind (.mandatory limit (.indexCatalog table))
  intro _
  apply Task.composed_bind (Task.composed_ofValue _)
  intro found
  exact .of_offCatalog (composed_lookUpUsages limit found)

theorem composed_redundantOfAll (limit : TimeLimit) (tables : List String) :
    Task.Composed RoundTrip F (redundantOfAll limit tables : Task ν (List Redundant)) := by
  induction tables with
  | nil => exact Task.composed_pure _
  | cons table tables ih =>
    apply Task.composed_bind (composed_redundantOf table limit)
    intro _
    exact Task.composed_bind ih fun _ => Task.composed_pure _

theorem composed_redundantFor (query : String) (limit : TimeLimit) :
    Task.Composed RoundTrip F (redundantFor query limit : Task ν (List Redundant)) := by
  rw [redundantFor_eq]
  apply Task.composed_bind (Task.composed_of_yields_ok (yields_remarkIfNoTables _))
  intro _
  exact composed_redundantOfAll limit _

theorem composed_survey (query : String) (limit : TimeLimit) :
    Task.Composed RoundTrip F
      (survey query limit : Task ν (List Recommendation × List Redundant)) := by
  apply Task.composed_bind (.of_offCatalog (composed_estimatedPlan query limit))
  intro _
  exact Task.composed_bind (composed_redundantFor query limit) fun _ => Task.composed_pure _

theorem conducts_survey (query : String) (limit : TimeLimit) :
    Task.Conducts RoundTrip
      (survey query limit : Task ν (List Recommendation × List Redundant)) :=
  (composed_survey (F := fun _ => True) query limit).conducts

end Index

namespace Analysis

theorem composed_serverInfo (limit : TimeLimit) :
    Task.Composed OffCatalog F (serverInfo limit : Task ν String) :=
  Task.composed_bind (.bestEffort limit (by decide) ⟨.serverInfo, by decide⟩)
    fun _ => Task.composed_pure _

theorem composed_reviseFor {P : Stage → Call → Prop} (dialect : Query.Dialect) (query : String)
    (issues : List Issue) :
    Task.Composed P F (reviseFor dialect query issues : Task ν String) :=
  Task.composed_bind (Task.composed_of_yields_ok (yields_remarkDiscarded _))
    fun _ => Task.composed_pure _

/-- The faults that a comparison finds are those of its two texts. -/
theorem composed_compare {baseline optimized : String} {p : Measure.Protocol}
    (hb : ∀ fault, p.check baseline = .error fault → F fault)
    (ho : ∀ fault, p.check optimized = .error fault → F fault) :
    Task.Composed OffCatalog F (compare baseline optimized p) := by
  apply Task.composed_bind (Measure.composed_benchmark hb)
  intro _
  exact Task.composed_bind (Measure.composed_benchmark ho) fun _ => Task.composed_pure _

theorem composed_metricsStage {o : Options} {query : String} {limit : TimeLimit}
    (h : ∀ fault, (o.metricsProtocol limit).check query = .error fault → F fault) :
    Task.Composed OffCatalog F (metricsStage o query limit) := by
  unfold metricsStage
  split
  · exact Task.composed_bind (Measure.composed_benchmark h) fun _ => Task.composed_pure _
  · exact Task.composed_pure _

theorem composed_planStage (o : Options) (query : String) (limit : TimeLimit) :
    Task.Composed OffCatalog F (planStage o query limit : Task ν Plan.Extraction) := by
  unfold planStage
  split
  · exact Index.composed_estimatedPlan query limit
  · exact Task.composed_pure _

theorem composed_redundantStage (o : Options) (query : String) (limit : TimeLimit) :
    Task.Composed RoundTrip F
      (redundantStage o query limit : Task ν (List Index.Redundant)) := by
  unfold redundantStage
  split
  · exact Index.composed_redundantFor query limit
  · exact Task.composed_pure _

theorem composed_improvementStage {o : Options} {query optimized : String} {limit : TimeLimit}
    (hq : ∀ fault, (o.comparisonProtocol limit).check query = .error fault → F fault)
    (ho : ∀ fault, o.collectMetrics = true →
      (o.comparisonProtocol limit).check optimized = .error fault → F fault) :
    Task.Composed OffCatalog F (improvementStage o query optimized limit) := by
  unfold improvementStage
  split
  next hmeasured =>
    have hmetrics : o.collectMetrics = true := (Bool.and_eq_true_iff.mp hmeasured).2
    have hoptimized fault := ho fault hmetrics
    exact Task.composed_bind (composed_compare hq hoptimized) fun _ => Task.composed_pure _
  · exact Task.composed_pure _

theorem composed_issuesStage {P : Stage → Call → Prop} (o : Options) (query : String) :
    Task.Composed P (fun _ => True) (issuesStage o query : Task ν (List Issue)) := by
  unfold issuesStage
  split
  · exact Task.composed_ofInput fun _ _ => trivial
  · exact Task.composed_pure _

theorem composed_revisionIssues {P : Stage → Call → Prop} (o : Options) (query : String)
    (issues : List Issue) :
    Task.Composed P (fun _ => True) (revisionIssues o query issues : Task ν (List Issue)) := by
  unfold revisionIssues
  split
  · exact Task.composed_pure _
  · exact Task.composed_ofInput fun _ _ => trivial

theorem composed_revisionStage (dialect : Query.Dialect) (o : Options) (query : String)
    (issues : List Issue) (limit : TimeLimit) :
    Task.Composed OffCatalog (fun _ => True) (revisionStage dialect o query issues limit) := by
  rw [revisionStage_eq]
  split
  · apply Task.composed_bind (composed_revisionIssues o query issues)
    intro found
    apply Task.composed_bind (composed_reviseFor dialect query _)
    intro optimized
    apply Task.composed_bind
      (composed_improvementStage (fun _ _ => trivial) fun _ _ _ => trivial)
    intro _
    exact Task.composed_pure _
  · exact Task.composed_pure _

theorem composed_pipeline (dialect : Query.Dialect) (o : Options) (query : String)
    (limit : TimeLimit) :
    Task.Composed RoundTrip (fun _ => True) (pipeline dialect o query limit) := by
  apply Task.composed_bind (.of_offCatalog (composed_serverInfo limit))
  intro _
  apply Task.composed_bind (composed_issuesStage o query)
  intro issues
  apply Task.composed_bind (.of_offCatalog (composed_metricsStage fun _ _ => trivial))
  intro _
  apply Task.composed_bind (.of_offCatalog (composed_planStage o query limit))
  intro _
  apply Task.composed_bind (composed_redundantStage o query limit)
  intro _
  apply Task.composed_bind (.of_offCatalog (composed_revisionStage dialect o query issues limit))
  intro _
  exact Task.composed_pure _

theorem conducts_compare (baseline optimized : String) (p : Measure.Protocol) :
    Task.Conducts OffCatalog (compare baseline optimized p) :=
  (composed_compare (fun _ _ => trivial) fun _ _ => trivial).conducts

theorem conducts_pipeline (dialect : Query.Dialect) (o : Options) (query : String)
    (limit : TimeLimit) : Task.Conducts RoundTrip (pipeline dialect o query limit) :=
  (composed_pipeline dialect o query limit).conducts

end Analysis

end QueryTuning
