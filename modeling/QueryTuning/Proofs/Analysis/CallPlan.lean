import QueryTuning.Proofs.Analysis.RoundTrips
import QueryTuning.Proofs.Session.Plan

/-!
# The calls of an analysis

The calls of an analysis are planned from its options, its query, the revised
query and what the catalog replies. Nothing else that a server returns has any
influence on them, apart from a failure, which cuts them short.
-/

set_option autoImplicit false

namespace QueryTuning

variable {σ ν : Type}

namespace Measure

def runCalls (sql : String) (collectStatistics : Bool) : List Call :=
  [.fetchPlan sql .actual, .fetchAll sql []] ++
    if collectStatistics then [statisticsCall sql] else []

def runsCalls (sql : String) (collectStatistics : Bool) : Nat → List Call
  | 0 => []
  | n + 1 => runCalls sql collectStatistics ++ runsCalls sql collectStatistics n

def benchmarkCalls (query : String) (iterations warmup : Int) (collectStatistics : Bool) :
    List Call :=
  (if collectStatistics then [.execute statisticsOnSql] else []) ++
    List.replicate warmup.toNat (.fetchAll (Query.substitutePlaceholders query) []) ++
    runsCalls (Query.substitutePlaceholders query) collectStatistics iterations.toNat

end Measure

namespace Index

def usageCalls (reply : List Row) : List Call :=
  match findRedundant reply with
  | .ok found => found.map usageCall
  | .error _ => []

theorem usageCalls_eq {reply : List Row} {found : List Redundant}
    (h : findRedundant reply = .ok found) : usageCalls reply = found.map usageCall := by
  rw [usageCalls, h]

def catalogCalls : List String → List (List Row) → List Call
  | [], _ => []
  | table :: tables, [] => catalogCall table :: catalogCalls tables []
  | table :: tables, reply :: replies =>
    catalogCall table :: usageCalls reply ++ catalogCalls tables replies

end Index

namespace Analysis

def plannedCalls (o : Options) (query optimized : String) (replies : List (List Row)) :
    List Call :=
  [.fetchAll serverInfoSql []] ++
  (if o.collectMetrics then
    Measure.benchmarkCalls query o.metricsIterations o.metricsWarmup o.collectStatistics else []) ++
  (if o.analyzePlan || o.analyzeIndexes then
    [.fetchPlan (Query.substitutePlaceholders query) .estimated] else []) ++
  (if o.analyzeIndexes then Index.catalogCalls (Query.tablesOf query) replies else []) ++
  if o.attemptRevision && o.collectMetrics && optimized != query then
    Measure.benchmarkCalls query o.comparisonIterations o.comparisonWarmup o.collectStatistics ++
    Measure.benchmarkCalls optimized o.comparisonIterations o.comparisonWarmup o.collectStatistics
  else []

def catalogReads (o : Options) (query : String) : Nat :=
  if o.analyzeIndexes then (Query.tablesOf query).length else 0

end Analysis

namespace Plan

theorem makes_retrieve {stage : Stage} {limit : TimeLimit} (mode : Mode) (remark sql : String)
    (hl : limit.isSpent = false) (hs : stage ≠ .indexCatalog) :
    Task.Makes [.fetchPlan sql mode] (retrieve stage mode remark sql limit : Task ν Extraction) := by
  rw [retrieve_eq]
  apply Task.makes_then (Task.makes_mandatory hl hs)
  intro document
  exact Task.makes_of_yields (yields_readReply mode remark document)

end Plan

namespace Measure

variable {limit : TimeLimit}

theorem makes_switchStatistics (p : Protocol) (hl : p.limit.isSpent = false) :
    Task.Makes (if p.collectStatistics then [.execute statisticsOnSql] else [])
      (switchStatistics p : Task ν Unit) := by
  unfold switchStatistics
  split
  · exact Task.makes_then (Task.makes_bestEffort hl (by simp)) fun _ => Task.makes_pure _
  · exact Task.makes_pure _

/-- A warm-up makes its call whether or not it succeeds. -/
theorem makes_warmUp (sql : String) (hl : limit.isSpent = false) :
    Task.Makes [.fetchAll sql []] (warmUp sql limit : Task ν Unit) :=
  Task.makes_onFatal hl (by simp)

theorem makes_warmUps (sql : String) (hl : limit.isSpent = false) (n : Nat) :
    Task.Makes (List.replicate n (.fetchAll sql [])) (warmUps sql limit n : Task ν Unit) := by
  induction n with
  | zero => exact Task.makes_pure _
  | succ n ih => exact Task.makes_bind (makes_warmUp sql hl) fun _ => ih

theorem makes_lookUpStatistics (sql : String) (collectStatistics : Bool)
    (hl : limit.isSpent = false) :
    Task.Makes (if collectStatistics then [statisticsCall sql] else [])
      (lookUpStatistics sql collectStatistics limit : Task ν Row) := by
  unfold lookUpStatistics
  split
  · exact Task.makes_then (Task.makes_bestEffort hl (by simp)) fun _ => Task.makes_pure _
  · exact Task.makes_pure _

variable [Quantity ν]

theorem makes_measure (sql : String) (collectStatistics : Bool) (hl : limit.isSpent = false) :
    Task.Makes (runCalls sql collectStatistics)
      (measure sql collectStatistics limit : Task ν (Metrics ν)) := by
  change Task.Makes ([_] ++ ([_] ++ _)) _
  apply Task.makes_bind (Plan.makes_retrieve .actual _ sql hl (by simp))
  intro plan
  apply Task.makes_after Task.makes_readClock
  intro started
  apply Task.makes_bind (Task.makes_mandatory hl (by simp))
  intro rows
  apply Task.makes_after Task.makes_readClock
  intro ended
  exact Task.makes_then (makes_lookUpStatistics sql _ hl) fun _ => Task.makes_ofValue _

theorem makes_measurements (sql : String) (collectStatistics : Bool) (hl : limit.isSpent = false)
    (n : Nat) :
    Task.Makes (runsCalls sql collectStatistics n)
      (measurements sql collectStatistics limit n : Task ν (List (Metrics ν))) := by
  induction n with
  | zero => exact Task.makes_pure _
  | succ n ih =>
    apply Task.makes_bind (makes_measure sql _ hl)
    intro _
    exact Task.makes_then ih fun _ => Task.makes_pure _

theorem makes_benchmark (query : String) (p : Protocol) (hl : p.limit.isSpent = false) :
    Task.Makes (benchmarkCalls query p.iterations p.warmup p.collectStatistics)
      (benchmark query p : Task ν (Metrics ν)) := by
  rw [benchmark_eq, benchmarkCalls, List.append_assoc]
  apply Task.makes_after (Task.makes_ofInput _)
  intro _
  apply Task.makes_bind (makes_switchStatistics p hl)
  intro _
  apply Task.makes_bind (makes_warmUps _ hl _)
  intro _
  apply Task.makes_then (makes_measurements _ _ hl _)
  intro runs
  cases runs with
  | nil => exact Task.makes_ofInput _
  | cons first others => exact Task.makes_ofValue _

end Measure

namespace Index

variable {limit : TimeLimit}

theorem makes_lookUpUsage (hl : limit.isSpent = false) (r : Redundant) :
    Task.Makes [usageCall r] (lookUpUsage limit r : Task ν Redundant) :=
  Task.makes_then (Task.makes_bestEffort hl (by simp)) fun _ => Task.makes_ofValue _

theorem makes_lookUpUsages (hl : limit.isSpent = false) (rs : List Redundant) :
    Task.Makes (rs.map usageCall) (lookUpUsages limit rs : Task ν (List Redundant)) := by
  induction rs with
  | nil => exact Task.makes_pure _
  | cons r rs ih =>
    apply Task.makes_bind (makes_lookUpUsage hl r)
    intro _
    exact Task.makes_then ih fun _ => Task.makes_pure _

/-- One catalog read is answered, and the lookups follow, or the task stops at it. -/
theorem follows_redundantOf {table : String} (hl : limit.isSpent = false) {t : Trace ν}
    {r : Except Failure (List Redundant)} (hf : Task.Follows (redundantOf table limit) t r) :
    (t.catalogReplies = [] ∧ t.calls = [catalogCall table] ∧ ∃ failure, r = .error failure) ∨
      ∃ reply, t.catalogReplies = [reply] ∧ t.calls <+: catalogCall table :: usageCalls reply ∧
        ∀ found, r = .ok found → t.calls = catalogCall table :: usageCalls reply := by
  rcases Task.follows_bind.mp hf with ⟨_, t₂, reply, rfl, h₁, h₂⟩ | ⟨failure, h₁, rfl⟩
  · obtain ⟨outcome, rfl, hr⟩ := (Task.follows_mandatory hl).mp h₁
    cases outcome with
    | error failure => cases hr
    | ok rows =>
      cases hr
      refine Or.inr ⟨reply, ?_⟩
      rcases Task.follows_ofValue_bind h₂ with ⟨found, hfound, hu⟩ | ⟨fault, -, rfl, rfl⟩
      · obtain ⟨hn, hp, hc⟩ := makes_lookUpUsages hl found _ _ hu
        rw [Trace.catalogReplies_append, Trace.calls_append, hn, usageCalls_eq hfound]
        refine ⟨rfl, (List.prefix_cons_inj _).mpr hp, fun b hb => ?_⟩
        rw [hc b hb]
        rfl
      · exact ⟨rfl, by simp, by simp⟩
  · obtain ⟨outcome, rfl, hr⟩ := (Task.follows_mandatory hl).mp h₁
    cases outcome with
    | error failure => exact Or.inl ⟨rfl, rfl, _, rfl⟩
    | ok reply => cases hr

theorem plans_redundantOfAll (hl : limit.isSpent = false) (tables : List String) :
    Task.Plans tables.length (catalogCalls tables)
      (redundantOfAll limit tables : Task ν (List Redundant)) := by
  induction tables with
  | nil => exact Task.plans_of_makes (Task.makes_pure _)
  | cons table tables ih =>
    intro t r hf
    rcases Task.follows_bind.mp hf with ⟨t₁, t₂, found, rfl, h₁, h₂⟩ | ⟨failure, h₁, rfl⟩
    · rcases follows_redundantOf hl h₁ with ⟨-, -, _, hr⟩ | ⟨reply, hn, -, hc⟩
      · cases hr
      obtain ⟨hp, hk⟩ := Task.plans_then ih (fun _ => Task.makes_pure _) _ _ h₂
      simp only [List.append_nil] at hp hk
      rw [Trace.catalogReplies_append, Trace.calls_append, hn, hc found rfl]
      refine ⟨(List.prefix_append_right_inj _).mpr hp, fun b hb => ?_⟩
      obtain ⟨hcalls, hlength⟩ := hk b hb
      rw [hcalls, List.length_append, hlength, Nat.add_comm]
      exact ⟨rfl, rfl⟩
    · refine ⟨?_, by simp⟩
      rcases follows_redundantOf hl h₁ with ⟨hn, hc, -⟩ | ⟨reply, hn, hp, -⟩
      · rw [hn, hc]
        exact ⟨_, rfl⟩
      · rw [hn]
        exact hp.trans (List.prefix_append _ _)

theorem plans_redundantFor (query : String) (hl : limit.isSpent = false) :
    Task.Plans (Query.tablesOf query).length (catalogCalls (Query.tablesOf query))
      (redundantFor query limit : Task ν (List Redundant)) := by
  rw [redundantFor_eq]
  change Task.Plans _ (fun replies => [] ++ catalogCalls (Query.tablesOf query) replies) _
  apply Task.plans_after (Task.makes_of_yields (yields_remarkIfNoTables _))
  intro _
  exact plans_redundantOfAll hl _

end Index

namespace Analysis

variable {limit : TimeLimit}

theorem makes_serverInfo (hl : limit.isSpent = false) :
    Task.Makes [.fetchAll serverInfoSql []] (serverInfo limit : Task ν String) :=
  Task.makes_then (Task.makes_bestEffort hl (by simp)) fun _ => Task.makes_pure _

theorem makes_metricsStage (o : Options) (query : String) (hl : limit.isSpent = false) :
    Task.Makes (if o.collectMetrics then Measure.benchmarkCalls query o.metricsIterations
        o.metricsWarmup o.collectStatistics else [])
      (metricsStage o query limit) := by
  unfold metricsStage
  split
  · exact Task.makes_then (Measure.makes_benchmark query (o.metricsProtocol limit) hl)
      fun _ => Task.makes_pure _
  · exact Task.makes_pure _

/-- One estimated plan serves all that need it. -/
theorem makes_planStage (o : Options) (query : String) (hl : limit.isSpent = false) :
    Task.Makes (if o.analyzePlan || o.analyzeIndexes then
        [.fetchPlan (Query.substitutePlaceholders query) .estimated] else [])
      (planStage o query limit : Task ν Plan.Extraction) := by
  unfold planStage
  split
  · exact Plan.makes_retrieve .estimated _ _ hl (by simp)
  · exact Task.makes_pure _

theorem plans_redundantStage (o : Options) (query : String) (hl : limit.isSpent = false) :
    Task.Plans (catalogReads o query)
      (fun replies =>
        if o.analyzeIndexes then Index.catalogCalls (Query.tablesOf query) replies else [])
      (redundantStage o query limit : Task ν (List Index.Redundant)) := by
  unfold redundantStage catalogReads
  cases o.analyzeIndexes with
  | true => exact Index.plans_redundantFor query hl
  | false => exact Task.plans_of_makes (Task.makes_pure _)

theorem makes_compare (baseline optimized : String) (p : Measure.Protocol)
    (hl : p.limit.isSpent = false) :
    Task.Makes
      (Measure.benchmarkCalls baseline p.iterations p.warmup p.collectStatistics ++
        Measure.benchmarkCalls optimized p.iterations p.warmup p.collectStatistics)
      (compare baseline optimized p) := by
  apply Task.makes_bind (Measure.makes_benchmark baseline p hl)
  intro _
  exact Task.makes_then (Measure.makes_benchmark optimized p hl) fun _ => Task.makes_pure _

theorem makes_proposalStage (dialect : Query.Dialect) (o : Options) (query : String)
    (hl : limit.isSpent = false) :
    Task.Makes
      (if o.attemptRevision && o.collectMetrics && proposal dialect o query != query then
        Measure.benchmarkCalls query o.comparisonIterations o.comparisonWarmup
            o.collectStatistics ++
          Measure.benchmarkCalls (proposal dialect o query) o.comparisonIterations
            o.comparisonWarmup o.collectStatistics
      else [])
      (proposalStage dialect o query limit) := by
  unfold proposalStage
  cases o.attemptRevision with
  | false => exact Task.makes_pure _
  | true =>
    apply Task.makes_after (Task.makes_of_yields (yields_remarkDiscarded _))
    intro _
    unfold improvementStage
    rw [Bool.true_and, Bool.and_comm]
    split
    · exact Task.makes_then (makes_compare _ _ (o.comparisonProtocol limit) hl)
        fun _ => Task.makes_pure _
    · exact Task.makes_pure _

theorem plans_pipeline (dialect : Query.Dialect) (o : Options) {query : String}
    (hq : isBlankString query = false) (hl : limit.isSpent = false) :
    Task.Plans (catalogReads o query) (plannedCalls o query (proposal dialect o query))
      (pipeline dialect o query limit) := by
  have stages := Task.plans_after (makes_serverInfo hl) fun info =>
    Task.plans_after (makes_metricsStage o query hl) fun metrics =>
      Task.plans_after (makes_planStage o query hl) fun e =>
        Task.plans_then (plans_redundantStage o query hl) fun redundant =>
          Task.makes_then (makes_proposalStage dialect o query hl) fun improvement =>
            Task.makes_pure (assemble dialect o query info metrics e redundant improvement)
  rw [pipeline_eq dialect o limit hq]
  change Task.Plans _ (fun replies => plannedCalls o query (proposal dialect o query) replies) _
  simpa only [plannedCalls, List.append_assoc] using stages

theorem pipeline_proposes (dialect : Query.Dialect) (o : Options) {query : String}
    (hq : isBlankString query = false) {t : Trace Binary64} {f : Findings}
    (hf : Task.Follows (pipeline dialect o query limit) t (.ok f)) :
    f.optimizedQuery = proposal dialect o query := by
  rw [pipeline_eq dialect o limit hq] at hf
  obtain ⟨_, _, _, _, -, hf⟩ := Task.follows_ok_bind hf
  obtain ⟨_, _, _, _, -, hf⟩ := Task.follows_ok_bind hf
  obtain ⟨_, _, _, _, -, hf⟩ := Task.follows_ok_bind hf
  obtain ⟨_, _, _, _, -, hf⟩ := Task.follows_ok_bind hf
  obtain ⟨_, _, _, _, -, -, hf⟩ := Task.follows_ok_bind hf
  cases hf
  rfl

end Analysis

namespace Analyzer

/-- An analysis refuses its input before any call, or analyzes it in a session. -/
theorem follows_analyze (a : Analyzer) {query : String} {connection : Option String}
    {options : Option Analysis.Options} {t : Trace Binary64}
    {r : Except Failure Analysis.Findings}
    (hf : Task.Follows (a.analyze query connection options) t r) :
    (t = [] ∧ ∃ failure, r = .error failure) ∨
      ∃ o target limit t', ∃ notes : List Remark, a.optionsFor options = .ok o ∧
        isBlankString query = false ∧ o.validate = .ok () ∧
        a.connectionFor connection = .ok target ∧ t = t' ++ notes.map Step.remark ∧
        Task.Follows (Task.inSession target limit (Analysis.pipeline a.dialect o query limit))
          t' r := by
  rw [analyze_eq] at hf
  rcases Task.follows_ofValue_bind hf with ⟨o, ho, hf⟩ | ⟨_, -, rfl, rfl⟩
  · rcases Task.follows_ofInput_bind hf with ⟨_, hq, hf⟩ | ⟨_, -, rfl, rfl⟩
    · rcases Task.follows_ofInput_bind hf with ⟨_, hv, hf⟩ | ⟨_, -, rfl, rfl⟩
      · rcases Task.follows_ofInput_bind hf with ⟨target, hc, hf⟩ | ⟨_, -, rfl, rfl⟩
        · rcases Task.follows_ofValue_bind hf with ⟨limit, -, hf⟩ | ⟨_, -, rfl, rfl⟩
          · obtain ⟨t', notes, ht, hr⟩ := Task.follows_reporting hf
            exact Or.inr ⟨o, target, limit, t', notes, ho, accepted_iff.mp hq, hv, hc, ht, hr⟩
          · exact Or.inl ⟨rfl, _, rfl⟩
        · exact Or.inl ⟨rfl, _, rfl⟩
      · exact Or.inl ⟨rfl, _, rfl⟩
    · exact Or.inl ⟨rfl, _, rfl⟩
  · exact Or.inl ⟨rfl, _, rfl⟩

/-- An analysis that returns has made exactly the calls that its options, its query and the
replies of the catalog lead to. One that fails has made the first of them, and closed its
session if it was opened. -/
theorem analyze_calls_as_planned (a : Analyzer) (s : Surroundings σ Binary64) (w : World σ)
    (query : String) (connection : Option String) (options : Option Analysis.Options) :
    let task := a.analyze query connection options
    let calls := (Task.runIn s task w).calls
    let replies := (Task.traceIn s task w).catalogReplies
    match (Task.runIn s task w).result with
    | .ok f => ∃ o target,
        a.optionsFor options = .ok o ∧ o.validate = .ok () ∧
        a.connectionFor connection = .ok target ∧
        f.optimizedQuery = Analysis.proposal a.dialect o query ∧
        replies.length = Analysis.catalogReads o query ∧
        calls = .openSession target ::
          Analysis.plannedCalls o query f.optimizedQuery replies ++ [.close]
    | .error _ => calls = [] ∨ ∃ o target,
        a.optionsFor options = .ok o ∧ o.validate = .ok () ∧
        a.connectionFor connection = .ok target ∧
        (calls = [.openSession target] ∨ ∃ made,
          made <+: Analysis.plannedCalls o query (Analysis.proposal a.dialect o query) replies ∧
          calls = .openSession target :: made ++ [.close]) := by
  intro task calls replies
  have hcalls : calls = (Task.traceIn s task w).calls := Task.runIn_calls s task w
  have hf := Task.runIn_follows s task w
  rcases a.follows_analyze hf with
    ⟨ht, failure, hr⟩ | ⟨o, target, limit, t', notes, ho, hq, hv, hc, ht, hs⟩
  · rw [hr]
    exact Or.inl (by rw [hcalls, ht, Trace.calls_nil])
  · have hn : replies = t'.catalogReplies := by
      simp [replies, ht, Trace.catalogReplies]
    rw [ht, Trace.calls_append, Trace.calls_remarks, List.append_nil] at hcalls
    rcases Task.follows_inSession_plans (Analysis.plans_pipeline a.dialect o hq) hs with
      ⟨hnone, failure, hr⟩ | ⟨hopen, failure, hr⟩ | ⟨made, hmade, hp, hk⟩
    · rw [hr]
      exact Or.inl (hcalls.trans hnone)
    · rw [hr]
      exact Or.inr ⟨o, target, ho, hv, hc, Or.inl (hcalls.trans hopen)⟩
    · rw [hcalls, hn, hmade]
      split
      next f hr =>
        obtain ⟨rfl, hlength, t₀, hfindings⟩ := hk f hr
        have hf := Analysis.pipeline_proposes a.dialect o hq hfindings
        rw [hf]
        exact ⟨o, target, ho, hv, hc, rfl, hlength, rfl⟩
      next failure hr =>
        exact Or.inr ⟨o, target, ho, hv, hc, Or.inr ⟨made, hp, rfl⟩⟩

end Analyzer

end QueryTuning
