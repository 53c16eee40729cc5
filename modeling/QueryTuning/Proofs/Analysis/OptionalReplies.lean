import QueryTuning.Proofs.Analysis.Lifecycle
import QueryTuning.Proofs.Analysis.Replies
import QueryTuning.Proofs.Session.Agreement

/-!
# Replies that do not matter

Two analyses of one query with one clock, whose mandatory calls are answered
alike, find the same, apart from what only the optional calls can tell: the
description of the server, its figures on the statement, and the use of indexes.
A warm-up is optional too, unless it is refused: a refusal ends the analysis.
-/

set_option autoImplicit false

namespace QueryTuning

open Binary64 QueryTuning.Measure

/-- What an optional round trip may come to: an answer of the expected sort, or any failure but
a cancellation. -/
structure Exchange.Tolerable (e : Exchange) : Prop where
  typed : e.WellTyped
  uncancelled : e.failure? ≠ some .cancelled

structure Exchange.Harmless (e : Exchange) : Prop extends e.Tolerable where
  warmup : e.stage = .warmup → ∀ failure, ¬ e.Decides failure

theorem Exchange.Harmless.unlessFatal_ok {c : Call} {outcome : c.Outcome}
    (h : (Exchange.mk .warmup c outcome).Harmless) : Task.unlessFatal outcome = .ok () := by
  cases outcome with
  | ok answer => rfl
  | error failure =>
    cases failure with
    | driver error => rfl
    | fatal stage cause => rfl
    | _ => exact absurd ⟨rfl, rfl⟩ (h.warmup rfl _)

namespace Trace

def RefusesWarmUp {ν : Type} (t : Trace ν) (failure : Failure) : Prop :=
  ∃ e ∈ t.exchanges, e.stage = .warmup ∧ e.Decides failure

theorem Tame.harmless {ν : Type} {t : Trace ν} {bound : Nat} (h : t.Tame Exchange.Tolerable bound)
    (ht : ∀ failure, ¬ t.RefusesWarmUp failure) : t.Tame Exchange.Harmless bound := by
  constructor
  · intro e he hs
    constructor
    · exact h.optional e he hs
    · exact fun hw failure hd => ht failure ⟨e, he, hw, hd⟩
  · exact h.length

end Trace

namespace Analysis

abbrev Agree {α β : Type} (R : α → β → Prop) (p : Task Binary64 α) (q : Task Binary64 β) : Prop :=
  Task.Agree Exchange.Harmless listBound R p q

theorem agree_bestEffort {limit : TimeLimit} {stage : Stage} {c : Call}
    (hl : limit.isSpent = false) (hs : stage.isMandatory = false) :
    Agree (fun found found' => (∀ answer ∈ found, (Exchange.mk stage c (.ok answer)).Harmless) ∧
        ∀ answer ∈ found', (Exchange.mk stage c (.ok answer)).Harmless)
      (Task.bestEffort stage c limit) (Task.bestEffort stage c limit) :=
  Task.agree_bestEffort (fun _ h => h.uncancelled) hl hs

end Analysis

namespace Task

variable {σ τ α : Type}

/-- Surroundings that a task cannot tell apart by its clock and its mandatory round trips. They
may differ in what else they reply. -/
structure ComparableIn (s : Surroundings σ Binary64) (w : World σ) (s' : Surroundings τ Binary64)
    (w' : World τ) (task : Task Binary64 α) : Prop where
  clock : ∀ k, s.clock (w.readings + k) = s'.clock (w'.readings + k)
  tame : (traceIn s task w).Tame Exchange.Tolerable listBound
  tame' : (traceIn s' task w').Tame Exchange.Tolerable listBound
  alike : Alike Exchange.SameQuestion (traceIn s task w).mandatory (traceIn s' task w').mandatory

/-- What the mandatory round trips settle. A refused warm-up is how a run ends. If none is
refused, the runs make the same mandatory round trips and their results agree. -/
structure SettledByMandatory (R : α → α → Prop) (s : Surroundings σ Binary64) (w : World σ)
    (s' : Surroundings τ Binary64) (w' : World τ) (task : Task Binary64 α) : Prop where
  refused : ∀ failure, (traceIn s task w).RefusesWarmUp failure →
    (runIn s task w).result = .error failure
  refused' : ∀ failure, (traceIn s' task w').RefusesWarmUp failure →
    (runIn s' task w').result = .error failure
  alike : (∀ failure, ¬ (traceIn s task w).RefusesWarmUp failure) →
    (∀ failure, ¬ (traceIn s' task w').RefusesWarmUp failure) →
    (traceIn s task w).mandatory = (traceIn s' task w').mandatory ∧
      SameResult R (runIn s task w).result (runIn s' task w').result

theorem ends_with_refusal {task : Task Binary64 α} (hkeeps : KeepsSession task)
    (s : Surroundings σ Binary64) (w : World σ) {bound : Nat} {failure : Failure}
    (htame : (traceIn s task w).Tame Exchange.Tolerable bound)
    (h : (traceIn s task w).RefusesWarmUp failure) :
    (runIn s task w).result = .error failure := by
  have hkept := hkeeps _ _ (runIn_follows s task w)
  obtain ⟨e, he, -, hd⟩ := h
  apply hkept.decided _ e he failure hd
  intro e' he' hclose
  have hoptional : e'.stage.isMandatory = false := by rw [hclose]; rfl
  exact (htame.optional e' he' hoptional).uncancelled

theorem settledByMandatory {R : α → α → Prop} {s : Surroundings σ Binary64} {w : World σ}
    {s' : Surroundings τ Binary64} {w' : World τ} {task : Task Binary64 α}
    (hagree : Analysis.Agree R task task) (hkeeps : KeepsSession task)
    (h : ComparableIn s w s' w' task) : SettledByMandatory R s w s' w' task := by
  have hreadings : Alike (fun _ _ => True) (traceIn s task w).readings
      (traceIn s' task w').readings := by
    rw [traceIn, traceIn, Interaction.trace_readings s, Interaction.trace_readings s']
    exact alike_readings h.clock _ _
  constructor
  · exact fun failure hr => ends_with_refusal hkeeps s w h.tame hr
  · exact fun failure hr => ends_with_refusal hkeeps s' w' h.tame' hr
  · intro hrefuses hrefuses'
    obtain ⟨hmandatory, -, hsame⟩ := hagree _ _ _ _ (runIn_follows s task w)
      (runIn_follows s' task w') (h.tame.harmless hrefuses) (h.tame'.harmless hrefuses')
      ⟨h.alike, hreadings⟩
    exact ⟨hmandatory, hsame⟩

end Task

open Analysis

variable {limit : TimeLimit}

namespace Plan

theorem agree_retrieve {stage : Stage} (mode : Mode) (remark sql : String)
    (hl : limit.isSpent = false) (hs : stage.isMandatory = true) :
    Agree Eq (retrieve stage mode remark sql limit) (retrieve stage mode remark sql limit) := by
  rw [retrieve_eq]
  apply Task.agree_bind (Task.agree_mandatory hl hs)
  rintro document _ rfl
  have hreply := yields_readReply (ν := Binary64) mode remark document
  exact Task.agree_of_yields hreply hreply (.refl _)

end Plan

namespace Measure

theorem agree_switchStatistics (p : Protocol) (hl : p.limit.isSpent = false) :
    Agree (fun _ _ => True) (switchStatistics p) (switchStatistics p) := by
  unfold switchStatistics
  split
  · exact Task.agree_bind (agree_bestEffort hl rfl) fun _ _ _ => Task.agree_pure trivial
  · exact Task.agree_pure trivial

theorem agree_warmUps (sql : String) (hl : limit.isSpent = false) (n : Nat) :
    Agree (fun _ _ => True) (warmUps sql limit n) (warmUps sql limit n) := by
  induction n with
  | zero => exact Task.agree_pure trivial
  | succ n ih =>
    have hwarmUp : Agree (fun _ _ => True) (warmUp sql limit) (warmUp sql limit) :=
      Task.agree_onFatal hl rfl fun _ h => h.unlessFatal_ok
    exact Task.agree_bind hwarmUp fun _ _ _ => ih

theorem agree_lookUpStatistics (sql : String) (collectStatistics : Bool)
    (hl : limit.isSpent = false) :
    Agree (fun row row' => IsStatistics row ∧ IsStatistics row')
      (lookUpStatistics sql collectStatistics limit)
      (lookUpStatistics sql collectStatistics limit) := by
  unfold lookUpStatistics
  split
  · apply Task.agree_bind (agree_bestEffort hl rfl)
    rintro found found' ⟨h, h'⟩
    exact Task.agree_pure ⟨isStatistics_found fun rows hr => (h rows hr).typed,
      isStatistics_found fun rows hr => (h' rows hr).typed⟩
  · exact Task.agree_pure ⟨isStatistics_nil, isStatistics_nil⟩

structure Metrics.SameMeasured (m m' : Metrics Binary64) : Prop where
  measured : m.measured = m'.measured
  told : m.ToldWithin
  told' : m'.ToldWithin

theorem agree_measure (sql : String) (collectStatistics : Bool) (hl : limit.isSpent = false) :
    Agree Metrics.SameMeasured (measure sql collectStatistics limit)
      (measure sql collectStatistics limit) := by
  apply Task.agree_bind (Plan.agree_retrieve .actual _ sql hl rfl)
  rintro plan _ rfl
  apply Task.agree_bind Task.agree_readClock
  rintro started _ rfl
  apply Task.agree_bind (Task.agree_mandatory hl rfl)
  rintro rows _ rfl
  apply Task.agree_bind Task.agree_readClock
  rintro ended _ rfl
  apply Task.agree_bind (agree_lookUpStatistics sql collectStatistics hl)
  rintro statistics statistics' ⟨h, h'⟩
  obtain ⟨m, hm, htold, hmeasured⟩ :=
    figures_ok plan (Quantity.difference ended started) rows.length h
  obtain ⟨m', hm', htold', hmeasured'⟩ :=
    figures_ok plan (Quantity.difference ended started) rows.length h'
  apply Task.agree_ofValue
  rw [hm, hm']
  exact .ok ⟨hmeasured.trans hmeasured'.symm, htold, htold'⟩

theorem agree_measurements (sql : String) (collectStatistics : Bool)
    (hl : limit.isSpent = false) (n : Nat) :
    Agree (List.Forall₂ Metrics.SameMeasured) (measurements sql collectStatistics limit n)
      (measurements sql collectStatistics limit n) := by
  induction n with
  | zero => exact Task.agree_pure .nil
  | succ n ih =>
    apply Task.agree_bind (agree_measure sql collectStatistics hl)
    intro run run' hrun
    apply Task.agree_bind ih
    intro runs runs' hruns
    exact Task.agree_pure (.cons hrun hruns)

theorem sameMeasured_lists {runs runs' : List (Metrics Binary64)}
    (h : List.Forall₂ Metrics.SameMeasured runs runs') :
    runs.map Metrics.measured = runs'.map Metrics.measured ∧ (∀ m ∈ runs, m.ToldWithin) ∧
      ∀ m ∈ runs', m.ToldWithin := by
  induction h with
  | nil => exact ⟨rfl, by simp, by simp⟩
  | cons hrun _ ih =>
    obtain ⟨hmap, hleft, hright⟩ := ih
    rw [List.map_cons, List.map_cons, hrun.measured, hmap]
    exact ⟨rfl, List.forall_mem_cons.mpr ⟨hrun.told, hleft⟩,
      List.forall_mem_cons.mpr ⟨hrun.told', hright⟩⟩

theorem average_agrees {first first' : Metrics Binary64} {others others' : List (Metrics Binary64)}
    (h : List.Forall₂ Metrics.SameMeasured (first :: others) (first' :: others'))
    (hn : (first :: others).length < listBound) :
    SameResult (fun m m' => m.measured = m'.measured)
      ((average first others).mapError Failure.value)
      ((average first' others').mapError Failure.value) := by
  obtain ⟨hmap, hleft, hright⟩ := sameMeasured_lists h
  rw [List.map_cons, List.map_cons, List.cons.injEq] at hmap
  have haverage := average_measured hleft hn
  have haverage' := average_measured hright (h.length_eq ▸ hn)
  rw [hmap.1, hmap.2, ← haverage'] at haverage
  cases hm : average first others with
  | ok m =>
    cases hm' : average first' others' with
    | ok m' =>
      rw [hm, hm'] at haverage
      exact .ok (Except.ok.inj haverage)
    | error fault =>
      rw [hm, hm'] at haverage
      cases haverage
  | error fault =>
    cases hm' : average first' others' with
    | ok m' =>
      rw [hm, hm'] at haverage
      cases haverage
    | error fault' =>
      rw [hm, hm'] at haverage
      cases haverage
      exact .error (.value fault)

theorem agree_averaged (sql : String) (collectStatistics : Bool) (hl : limit.isSpent = false)
    (n : Nat) :
    Agree (fun m m' => m.measured = m'.measured)
      (measurements sql collectStatistics limit n >>= averageOf)
      (measurements sql collectStatistics limit n >>= averageOf) := by
  have hbounded : Agree
      (fun runs runs' => List.Forall₂ Metrics.SameMeasured runs runs' ∧ runs.length < listBound)
      (measurements sql collectStatistics limit n) (measurements sql collectStatistics limit n) := by
    intro t u r r' ht hu htame hutame hc
    obtain ⟨hm, hr, hsame⟩ :=
      agree_measurements sql collectStatistics hl n t u r r' ht hu htame hutame hc
    refine ⟨hm, hr, ?_⟩
    cases hsame with
    | ok hruns => exact .ok ⟨hruns, length_lt_of_measurements hl ht htame.length⟩
    | error failure => exact .error failure
  apply Task.agree_bind hbounded
  rintro runs runs' ⟨hruns, hlength⟩
  cases hruns with
  | nil =>
    exact Task.agree_mono (Task.agree_ofInput _) fun m m' h => congrArg Metrics.measured h
  | cons hrun hothers => exact Task.agree_ofValue (average_agrees (.cons hrun hothers) hlength)

theorem agree_benchmark (query : String) {p : Protocol} (hl : p.limit.isSpent = false) :
    Agree (fun m m' => m.measured = m'.measured) (benchmark query p) (benchmark query p) := by
  rw [benchmark_eq]
  apply Task.agree_ofInput_bind
  intro _ _
  apply Task.agree_bind (agree_switchStatistics p hl)
  intro _ _ _
  apply Task.agree_bind (agree_warmUps _ hl _)
  intro _ _ _
  exact agree_averaged _ _ hl _

end Measure

namespace Index

theorem agree_estimatedPlan (query : String) (hl : limit.isSpent = false) :
    Agree Eq (estimatedPlan query limit) (estimatedPlan query limit) :=
  Plan.agree_retrieve .estimated _ _ hl rfl

def SameVerdicts (rs rs' : List Redundant) : Prop :=
  rs.map Redundant.verdict = rs'.map Redundant.verdict

theorem withUsage_agrees {usage usage' : List Row} (h : ∀ row ∈ usage, IsUsage row)
    (h' : ∀ row ∈ usage', IsUsage row) (r : Redundant) :
    SameResult (fun r₁ r₂ => r₁.verdict = r₂.verdict)
      ((withUsage usage r).mapError Failure.value)
      ((withUsage usage' r).mapError Failure.value) := by
  obtain ⟨r₁, hr₁, hv₁⟩ := withUsage_ok h r
  obtain ⟨r₂, hr₂, hv₂⟩ := withUsage_ok h' r
  rw [hr₁, hr₂]
  exact .ok (hv₁.trans hv₂.symm)

theorem agree_lookUpUsage (hl : limit.isSpent = false) (r : Redundant) :
    Agree (fun r₁ r₂ => r₁.verdict = r₂.verdict) (lookUpUsage limit r) (lookUpUsage limit r) := by
  apply Task.agree_bind (agree_bestEffort hl rfl)
  rintro found found' ⟨h, h'⟩
  have husage := isUsage_found fun rows hr => (h rows hr).typed
  have husage' := isUsage_found fun rows hr => (h' rows hr).typed
  exact Task.agree_ofValue (withUsage_agrees husage husage' r)

theorem agree_lookUpUsages (hl : limit.isSpent = false) (rs : List Redundant) :
    Agree SameVerdicts (lookUpUsages limit rs) (lookUpUsages limit rs) := by
  induction rs with
  | nil => exact Task.agree_pure rfl
  | cons r rs ih =>
    apply Task.agree_bind (agree_lookUpUsage hl r)
    intro r₁ r₂ hr
    apply Task.agree_bind ih
    intro rs₁ rs₂ hrs
    apply Task.agree_pure
    rw [SameVerdicts, List.map_cons, List.map_cons, hr, hrs]

theorem agree_redundantOf (table : String) (hl : limit.isSpent = false) :
    Agree SameVerdicts (redundantOf table limit) (redundantOf table limit) := by
  apply Task.agree_bind (Task.agree_mandatory hl rfl)
  rintro reply _ rfl
  apply Task.agree_ofValue_bind
  exact fun found _ => agree_lookUpUsages hl found

theorem agree_redundantOfAll (hl : limit.isSpent = false) (tables : List String) :
    Agree SameVerdicts (redundantOfAll limit tables) (redundantOfAll limit tables) := by
  induction tables with
  | nil => exact Task.agree_pure rfl
  | cons table tables ih =>
    apply Task.agree_bind (agree_redundantOf table hl)
    intro found found' hfound
    apply Task.agree_bind ih
    intro others others' hothers
    apply Task.agree_pure
    rw [SameVerdicts, List.map_append, List.map_append, hfound, hothers]

theorem agree_redundantFor (query : String) (hl : limit.isSpent = false) :
    Agree SameVerdicts (redundantFor query limit) (redundantFor query limit) := by
  rw [redundantFor_eq]
  have hremark := yields_remarkIfNoTables (ν := Binary64) (Query.tablesOf query)
  apply Task.agree_bind (Task.agree_of_yields hremark hremark (.refl _))
  intro _ _ _
  exact agree_redundantOfAll hl _

end Index

namespace Analysis

structure Findings.SameAnalysis (f g : Findings) : Prop where
  query : f.query = g.query
  optimizedQuery : f.optimizedQuery = g.optimizedQuery
  issues : f.issues = g.issues
  measured : f.metrics.map Metrics.measured = g.metrics.map Metrics.measured
  recommendations : f.recommendations = g.recommendations
  verdicts : Index.SameVerdicts f.redundant g.redundant
  suggestions : f.suggestions = g.suggestions
  complexity : f.complexity = g.complexity
  improvement : f.improvement = g.improvement
  estimatedPlanCost : f.estimatedPlanCost = g.estimatedPlanCost

theorem agree_serverInfo (hl : limit.isSpent = false) :
    Agree (fun _ _ => True) (serverInfo limit) (serverInfo limit) :=
  Task.agree_bind (agree_bestEffort hl rfl) fun _ _ _ => Task.agree_pure trivial

theorem agree_metricsStage (o : Options) (query : String) (hl : limit.isSpent = false) :
    Agree (fun m m' => m.map Metrics.measured = m'.map Metrics.measured)
      (metricsStage o query limit) (metricsStage o query limit) := by
  unfold metricsStage
  split
  · have hbenchmark := Measure.agree_benchmark query (p := o.metricsProtocol limit) hl
    exact Task.agree_bind hbenchmark fun _ _ h => Task.agree_pure (congrArg some h)
  · exact Task.agree_pure rfl

theorem agree_planStage (o : Options) (query : String) (hl : limit.isSpent = false) :
    Agree Eq (planStage o query limit) (planStage o query limit) := by
  unfold planStage
  split
  · exact Index.agree_estimatedPlan query hl
  · exact Task.agree_pure rfl

theorem agree_redundantStage (o : Options) (query : String) (hl : limit.isSpent = false) :
    Agree Index.SameVerdicts (redundantStage o query limit) (redundantStage o query limit) := by
  unfold redundantStage
  split
  · exact Index.agree_redundantFor query hl
  · exact Task.agree_pure rfl

theorem agree_compare (baseline optimized : String) {p : Measure.Protocol}
    (hl : p.limit.isSpent = false) :
    Agree (fun c c' => c.executionTime = c'.executionTime) (compare baseline optimized p)
      (compare baseline optimized p) := by
  apply Task.agree_bind (Measure.agree_benchmark baseline hl)
  intro before before' hbefore
  apply Task.agree_bind (Measure.agree_benchmark optimized hl)
  intro after after' hafter
  apply Task.agree_pure
  have hbaseline : before.executionTimeMs = before'.executionTimeMs :=
    congrArg Metrics.Measured.executionTimeMs hbefore
  have hoptimized : after.executionTimeMs = after'.executionTimeMs :=
    congrArg Metrics.Measured.executionTimeMs hafter
  rw [Comparison.executionTime, Comparison.executionTime, hbaseline, hoptimized]

theorem agree_proposalStage (dialect : Query.Dialect) (o : Options) (query : String)
    (hl : limit.isSpent = false) :
    Agree Eq (proposalStage dialect o query limit) (proposalStage dialect o query limit) := by
  unfold proposalStage
  split
  · have hremarks := yields_remarkDiscarded (ν := Binary64) (revision dialect query).discarded
    apply Task.agree_bind (Task.agree_of_yields hremarks hremarks (.refl _))
    intro _ _ _
    unfold improvementStage
    split
    · have hcompare := agree_compare query (proposal dialect o query)
        (p := o.comparisonProtocol limit) hl
      exact Task.agree_bind hcompare fun _ _ h => Task.agree_pure h
    · exact Task.agree_pure rfl
  · exact Task.agree_pure rfl

theorem agree_pipeline (dialect : Query.Dialect) (o : Options) {query : String}
    (hq : isBlankString query = false) (hl : limit.isSpent = false) :
    Agree Findings.SameAnalysis (pipeline dialect o query limit)
      (pipeline dialect o query limit) := by
  rw [pipeline_eq dialect o limit hq]
  apply Task.agree_bind (agree_serverInfo hl)
  intro info info' _
  apply Task.agree_bind (agree_metricsStage o query hl)
  intro metrics metrics' hmetrics
  apply Task.agree_bind (agree_planStage o query hl)
  rintro e _ rfl
  apply Task.agree_bind (agree_redundantStage o query hl)
  intro redundant redundant' hredundant
  apply Task.agree_bind (agree_proposalStage dialect o query hl)
  rintro improvement _ rfl
  exact Task.agree_pure ⟨rfl, rfl, rfl, hmetrics, rfl, hredundant, rfl, rfl, rfl, rfl⟩

end Analysis

namespace Analyzer

theorem agree_analyze (a : Analyzer) (query : String) (connection : Option String)
    (options : Option Analysis.Options) :
    Agree Findings.SameAnalysis (a.analyze query connection options)
      (a.analyze query connection options) := by
  rw [analyze_eq]
  apply Task.agree_ofValue_bind
  intro o _
  apply Task.agree_ofInput_bind
  intro _ hq
  apply Task.agree_ofInput_bind
  intro _ _
  apply Task.agree_ofInput_bind
  intro target _
  apply Task.agree_ofValue_bind
  intro limit hlimit
  have hl := TimeLimit.ofMilliseconds_unspent hlimit
  have hpipeline := agree_pipeline a.dialect o (accepted_iff.mp hq) hl
  exact Task.agree_reporting (Task.agree_inSession (fun _ h => h.uncancelled) hl hpipeline)

/-- Replies to optional calls have no part in what an analysis finds, nor in the mandatory calls
it makes, unless they refuse a warm-up. -/
theorem optional_replies_do_not_matter {σ τ : Type} (a : Analyzer)
    (s : Surroundings σ Binary64) (w : World σ) (s' : Surroundings τ Binary64) (w' : World τ)
    (query : String) (connection : Option String) (options : Option Analysis.Options)
    (h : Task.ComparableIn s w s' w' (a.analyze query connection options)) :
    Task.SettledByMandatory Findings.SameAnalysis s w s' w'
      (a.analyze query connection options) :=
  Task.settledByMandatory (a.agree_analyze query connection options)
    (a.keepsSession_analyze query connection options) h

def measureOnly : Options :=
  { analyzePlan := false, analyzeIndexes := false, analyzeSyntax := false,
    attemptRevision := false, maxExecutionTimeMs := 0, metricsWarmup := 1 }

theorem tame_of_empty {t : Trace Binary64} (h : ∀ e ∈ t.exchanges, e.IsEmpty)
    (hlength : t.exchanges.length < listBound) : t.Tame Exchange.Tolerable listBound :=
  ⟨fun e he _ => ⟨(h e he).wellTyped, (h e he).2.2⟩, hlength⟩

/-- A server that denies all optional calls leads to the same analysis. -/
theorem denied_optional_calls_do_not_matter :
    let s : Surroundings Nat Binary64 := ⟨.failingAt [] .cancelled, stillClock⟩
    let s' : Surroundings Nat Binary64 := ⟨.failingAt [1, 2, 3, 6, 7] (.driver .denied), stillClock⟩
    let task := unlimited.analyze "SELECT 1" (some "Server=a") (some measureOnly)
    let w := World.start 0 0 none
    Task.ComparableIn s w s' w task ∧
      SameResult Findings.SameAnalysis (Task.runIn s task w).result
        (Task.runIn s' task w).result := by
  intro s s' task w
  have hempty : ∀ e ∈ (Task.traceIn s task w).exchanges, e.IsEmpty := by decide +kernel
  have hempty' : ∀ e ∈ (Task.traceIn s' task w).exchanges, e.IsEmpty := by decide +kernel
  have hmandatory : (Task.traceIn s task w).mandatory = (Task.traceIn s' task w).mandatory := by
    decide +kernel
  have hcomparable : Task.ComparableIn s w s' w task := by
    constructor
    · exact fun _ => rfl
    · exact tame_of_empty hempty (by decide +kernel)
    · exact tame_of_empty hempty' (by decide +kernel)
    · rw [hmandatory]
      exact Alike.refl _
  have hnone : ∀ e ∈ (Task.traceIn s task w).exchanges, e.failure? = none := by decide +kernel
  have hdenied : ∀ e ∈ (Task.traceIn s' task w).exchanges,
      e.failure?.getD (.driver .denied) = .driver .denied := by decide +kernel
  have hsettled := optional_replies_do_not_matter unlimited s w s' w "SELECT 1"
    (some "Server=a") (some measureOnly) hcomparable
  refine ⟨hcomparable, (hsettled.alike ?_ ?_).2⟩
  · rintro failure ⟨e, he, -, hf, -⟩
    rw [hnone e he] at hf
    cases hf
  · rintro failure ⟨e, he, -, hf, hd⟩
    have hdriver := hdenied e he
    rw [hf] at hdriver
    obtain rfl : failure = .driver .denied := hdriver
    cases hd

/-- A warm-up that is refused as input ends the analysis, which succeeds without the refusal. -/
theorem refused_warmup_matters :
    let s : Surroundings Nat Binary64 := ⟨.failingAt [] .cancelled, stillClock⟩
    let s' : Surroundings Nat Binary64 :=
      ⟨.failingAt [3] (.invalidInput (.reported "statement refused")), stillClock⟩
    let task := unlimited.analyze "SELECT 1" (some "Server=a") (some measureOnly)
    let w := World.start 0 0 none
    Task.ComparableIn s w s' w task ∧
      ¬ SameResult Findings.SameAnalysis (Task.runIn s task w).result
        (Task.runIn s' task w).result := by
  intro s s' task w
  have hempty : ∀ e ∈ (Task.traceIn s task w).exchanges, e.IsEmpty := by decide +kernel
  have hempty' : ∀ e ∈ (Task.traceIn s' task w).exchanges, e.IsEmpty := by decide +kernel
  have hmandatory : (Task.traceIn s task w).mandatory =
      [⟨.openSession, .openSession "Server=a", .ok ()⟩,
        ⟨.actualPlan, .fetchPlan "SELECT 1" .actual, .ok none⟩,
        ⟨.execution, .fetchAll "SELECT 1" [], .ok []⟩] := by decide +kernel
  have hmandatory' : (Task.traceIn s' task w).mandatory =
      [⟨.openSession, .openSession "Server=a", .ok ()⟩] := by decide +kernel
  have hok : (Task.runIn s task w).result.isOk = true := by decide +kernel
  have hfailed : (Task.runIn s' task w).result.isOk = false := by decide +kernel
  constructor
  · constructor
    · exact fun _ => rfl
    · exact tame_of_empty hempty (by decide +kernel)
    · exact tame_of_empty hempty' (by decide +kernel)
    · rw [hmandatory, hmandatory']
      exact fun _ => ⟨rfl, trivial⟩
  · intro hsame
    have hequal := hsame.isOk_eq
    rw [hok, hfailed] at hequal
    cases hequal

end Analyzer

end QueryTuning
