import QueryTuning.Proofs.Analysis.Failures
import QueryTuning.Proofs.Query.Hints

/-!
# Refused input of a service

Every service checks its input before it opens a session, and a benchmark checks it once more.
What passed the first check passes the second one, with one exception: a query may be revised to
a blank text, and the comparison with it is refused when the analysis is nearly done. Where every
text counts as parsing, that befalls the queries that hold nothing but hints and blanks.
-/

set_option autoImplicit false

namespace QueryTuning

variable {σ ν α : Type} {F : InputFault → Prop}

/-- Counts that make a benchmark of one text make one of every text that is not blank. -/
theorem Measure.Protocol.check_congr {p : Protocol} {query : String}
    (h : p.check query = .ok ()) (text : String) :
    p.check text = if isBlankString text then .error .blankQueryText else .ok () := by
  unfold check at h ⊢
  split at h
  · cases h
  next hi =>
    split at h
    · cases h
    next hw => rw [if_neg hi, if_neg hw]

namespace Analysis

structure Options.ComparesBlank (o : Options) (query : String) : Prop where
  revised : o.attemptRevision = true
  measured : o.collectMetrics = true
  hintsOnly : Query.HintsOnly query.toList

variable {dialect : Query.Dialect} {o : Options} {query : String} {limit : TimeLimit}

/-- Only a blank text that is compared with the query is refused. -/
theorem composed_proposalStage (hparses : ∀ text, dialect.parses text = true)
    (hinked : isBlankString query = false)
    (hq : (o.comparisonProtocol limit).check query = .ok ()) :
    Task.Composed OffCatalog (fun fault => fault = .blankQueryText ∧ o.ComparesBlank query)
      (proposalStage dialect o query limit) := by
  unfold proposalStage
  split
  next hrevised =>
    apply Task.composed_bind (Task.composed_of_yields_ok (yields_remarkDiscarded _))
    intro _
    refine composed_improvementStage (Task.faults_of_passed hq) fun fault hmetrics hfault => ?_
    rw [Measure.Protocol.check_congr hq] at hfault
    cases hblank : isBlankString (proposal dialect o query) with
    | true =>
      rw [hblank] at hfault
      have hhints := ((blank_proposal_iff hparses hinked).mp hblank).2
      exact ⟨(Except.error.inj hfault).symm, hrevised, hmetrics, hhints⟩
    | false =>
      rw [hblank] at hfault
      cases hfault
  · exact Task.composed_pure _

/-- A query that has some content is refused only if it is to be compared with a blank text. -/
theorem composed_pipeline_of_inked (limit : TimeLimit)
    (hparses : ∀ text, dialect.parses text = true) (hv : o.validate = .ok ())
    (hinked : isBlankString query = false) :
    Task.Composed RoundTrip (fun fault => fault = .blankQueryText ∧ o.ComparesBlank query)
      (pipeline dialect o query limit) := by
  have hchecks := Options.checks_of_validate hv hinked limit
  rw [pipeline_eq dialect o limit hinked]
  apply Task.composed_bind (.of_offCatalog (composed_serverInfo limit))
  intro _
  apply Task.composed_bind
    (.of_offCatalog (composed_metricsStage (Task.faults_of_passed hchecks.1)))
  intro _
  apply Task.composed_bind (.of_offCatalog (composed_planStage o query limit))
  intro _
  apply Task.composed_bind (composed_redundantStage o query limit)
  intro _
  apply Task.composed_bind (.of_offCatalog (composed_proposalStage hparses hinked hchecks.2))
  intro _
  exact Task.composed_pure _

abbrev Refuses (limit : TimeLimit) (fault : InputFault) (task : Task Binary64 α) : Prop :=
  Task.Refuses Exchange.WellTyped (Binary64.Within Measure.readingBound) Measure.listBound limit
    fault task

theorem refuses_proposalStage (hparses : ∀ text, dialect.parses text = true)
    (hinked : isBlankString query = false)
    (hq : (o.comparisonProtocol limit).check query = .ok ())
    (hl : limit.isSpent = false) (hblank : o.ComparesBlank query) :
    Refuses limit .blankQueryText (proposalStage dialect o query limit) := by
  have hproposal : isBlankString (proposal dialect o query) = true :=
    (blank_proposal_iff hparses hinked).mpr ⟨hblank.revised, hblank.hintsOnly⟩
  have hdiffers : proposal dialect o query ≠ query := by
    intro hsame
    rw [hsame, hinked] at hproposal
    cases hproposal
  have hcheck : (o.comparisonProtocol limit).check (proposal dialect o query) =
      .error .blankQueryText := by
    rw [Measure.Protocol.check_congr hq, if_pos hproposal]
  have hbaseline : Steady limit (fun _ => True)
      (Measure.benchmark query (o.comparisonProtocol limit)) := Measure.steady_benchmark hl hq
  have hremarks : Steady limit (fun _ => True)
      (remarkDiscarded (revision dialect query).discarded) :=
    Task.steady_of_yields (yields_remarkDiscarded _) trivial
  have hrefused : Refuses limit .blankQueryText
      (Measure.benchmark (proposal dialect o query) (o.comparisonProtocol limit) :
        Task Binary64 (Measure.Metrics Binary64)) := by
    rw [Measure.benchmark_eq]
    exact Task.refuses_ofInput_bind hcheck _
  have hmeasured : (proposal dialect o query != query && o.collectMetrics) = true := by
    simp [hdiffers, hblank.measured]
  rw [proposalStage, if_pos hblank.revised]
  refine Task.refuses_after hremarks fun _ _ => ?_
  rw [improvementStage, if_pos hmeasured]
  apply Task.refuses_bind
  exact Task.refuses_after hbaseline fun _ _ => Task.refuses_bind hrefused _

theorem refuses_pipeline (hparses : ∀ text, dialect.parses text = true)
    (hv : o.validate = .ok ()) (hinked : isBlankString query = false)
    (hl : limit.isSpent = false) (hblank : o.ComparesBlank query) :
    Refuses limit .blankQueryText (pipeline dialect o query limit) := by
  have hchecks := Options.checks_of_validate hv hinked limit
  rw [pipeline_eq dialect o limit hinked]
  refine Task.refuses_after (steady_serverInfo hl) fun _ _ => ?_
  refine Task.refuses_after (steady_metricsStage hl hchecks.1) fun _ _ => ?_
  refine Task.refuses_after (steady_planStage o query hl) fun _ _ => ?_
  refine Task.refuses_after (steady_redundantStage o query hl) fun _ _ => ?_
  exact Task.refuses_bind (refuses_proposalStage hparses hinked hchecks.2 hl hblank) _

end Analysis

open Analysis

namespace Analyzer

variable {a : Analyzer} {query optimized : String} {connection : Option String}

theorem refusesEarly_analyze (hparses : ∀ text, a.dialect.parses text = true)
    (options : Option Analysis.Options) :
    Task.RefusesEarly (fun fault => fault = .blankQueryText ∧
        ∃ o, a.optionsFor options = .ok o ∧ o.ComparesBlank query)
      (a.analyze query connection options) := by
  rw [analyze_eq]
  refine Task.refusesEarly_ofValue_bind fun o ho => ?_
  refine Task.refusesEarly_ofInput_bind fun _ haccepted => ?_
  refine Task.refusesEarly_ofInput_bind fun _ hv => ?_
  refine Task.refusesEarly_ofInput_bind fun target _ => ?_
  refine Task.refusesEarly_ofValue_bind fun limit _ => ?_
  have hinked : isBlankString query = false := accepted_iff.mp haccepted
  refine (Task.refusesOnly_reporting (Task.refusesOnly_inSession ?_)).early
  have hpipeline := composed_pipeline_of_inked limit hparses hv hinked
  exact (hpipeline.mono (fun _ _ h => h) fun fault h => ⟨h.1, o, ho, h.2⟩).refusesOnly

theorem refusesEarly_benchmark (iterations warmup : Option Int) :
    Task.RefusesEarly F (a.benchmark query connection iterations warmup) := by
  refine Task.refusesEarly_ofInput_bind fun _ haccepted => ?_
  refine Task.refusesEarly_ofInput_bind fun _ hcounts => ?_
  refine Task.refusesEarly_ofInput_bind fun target _ => ?_
  refine Task.refusesEarly_ofValue_bind fun limit _ => ?_
  have hcheck := protocol_check hcounts (accepted_iff.mp haccepted) limit
  refine (Task.refusesOnly_inSession ?_).early
  exact (Measure.composed_benchmark (Task.faults_of_passed hcheck)).refusesOnly

theorem refusesEarly_compare (iterations warmup : Option Int) :
    Task.RefusesEarly F (a.compare query optimized connection iterations warmup) := by
  refine Task.refusesEarly_ofInput_bind fun _ hquery => ?_
  refine Task.refusesEarly_ofInput_bind fun _ hoptimized => ?_
  refine Task.refusesEarly_ofInput_bind fun _ hcounts => ?_
  refine Task.refusesEarly_ofInput_bind fun target _ => ?_
  refine Task.refusesEarly_ofValue_bind fun limit _ => ?_
  have hfirst := protocol_check hcounts (accepted_iff.mp hquery) limit
  have hsecond := protocol_check hcounts (accepted_iff.mp hoptimized) limit
  refine (Task.refusesOnly_inSession ?_).early
  exact (composed_compare (Task.faults_of_passed hfirst)
    (Task.faults_of_passed hsecond)).refusesOnly

theorem refusesEarly_indexes :
    Task.RefusesEarly F (a.indexes query connection :
      Task ν (List Index.Recommendation × List Index.Redundant)) := by
  rw [indexes_eq]
  refine Task.refusesEarly_ofInput_bind fun _ _ => ?_
  refine Task.refusesEarly_ofInput_bind fun target _ => ?_
  refine Task.refusesEarly_ofValue_bind fun limit _ => ?_
  exact (Task.refusesOnly_inSession (Index.composed_survey query limit).refusesOnly).early

structure Accepts (a : Analyzer) (query : String) (connection : Option String)
    (options : Option Analysis.Options) (o : Analysis.Options) (limit : TimeLimit) : Prop where
  options : a.optionsFor options = .ok o
  query : isBlankString query = false
  valid : o.validate = .ok ()
  connection : ∃ target, a.connectionFor connection = .ok target
  limit : TimeLimit.ofMilliseconds o.maxExecutionTimeMs = .ok limit

/-- Whatever is asked of the server before it, the comparison with a blank text is refused. -/
theorem analyze_refuses_late {s : Surroundings σ Binary64} {w : World σ}
    {options : Option Analysis.Options} {o : Analysis.Options} {limit : TimeLimit}
    (hparses : ∀ text, a.dialect.parses text = true)
    (haccepts : a.Accepts query connection options o limit) (hblank : o.ComparesBlank query)
    (hreg : Regular (Task.traceIn s (a.analyze query connection options) w))
    (hnone : ∀ e ∈ (Task.traceIn s (a.analyze query connection options) w).exchanges, ¬ e.Breaks) :
    (Task.runIn s (a.analyze query connection options) w).result =
        .error (.invalidInput .blankQueryText) ∧
      (Task.runIn s (a.analyze query connection options) w).calls ≠ [] := by
  obtain ⟨ho, hinked, hv, ⟨target, hc⟩, hlimit⟩ := haccepts
  have hl : limit.isSpent = false := TimeLimit.ofMilliseconds_unspent hlimit
  rcases isService_analyze ho hinked hv hc _ _ (Task.runIn_follows s _ w) with
    ⟨fault, hfault, -, -⟩ | ⟨_, t, notes, hsame, ht, hf⟩
  · rw [hlimit] at hfault
    cases hfault
  · rw [hlimit] at hsame
    cases hsame
    rw [ht] at hreg hnone
    have hunbroken : ∀ e ∈ t.exchanges, ¬ e.Breaks := by simpa using hnone
    have hend := Task.refused_inSession hl
      (refuses_pipeline hparses hv hinked hl hblank) hf hreg.left hunbroken
    rw [Task.runIn_calls, ht, Trace.calls_append]
    exact ⟨hend.1, by simp [hend.2]⟩

end Analyzer

def Task.RefusedFirst (s : Surroundings σ ν) (w : World σ) (task : Task ν α) : Prop :=
  ∀ fault, (runIn s task w).result = .error (.invalidInput fault) → (runIn s task w).calls = []

theorem Task.refusedFirst_of_early {s : Surroundings σ ν} {w : World σ} {task : Task ν α}
    (hserver : s.server.RefusesNothing) (h : RefusesEarly (fun _ => False) task) :
    RefusedFirst s w task :=
  fun _ hr => (calls_of_refusesEarly h hserver hr).resolve_right not_false

namespace Analyzer

/-- If the server refuses nothing and every text counts as parsing, invalid input is refused
before any call, save that an analysis may refuse the blank text that it was to compare a query
with. Where all mandatory round trips succeed, it does so exactly if there is such a text. -/
theorem input_is_refused_first {a : Analyzer} {s : Surroundings σ Binary64}
    (hparses : ∀ text, a.dialect.parses text = true) (hserver : s.server.RefusesNothing)
    (w : World σ) (query optimized : String) (connection : Option String) :
    (∀ iterations warmup,
      Task.RefusedFirst s w (a.benchmark query connection iterations warmup)) ∧
      (∀ iterations warmup,
        Task.RefusedFirst s w (a.compare query optimized connection iterations warmup)) ∧
      Task.RefusedFirst s w (a.indexes query connection) ∧
      (∀ options, Task.RefusedFirst s w (a.analyze query connection options) ∨
        (Task.runIn s (a.analyze query connection options) w).result =
            .error (.invalidInput .blankQueryText) ∧
          ∃ o, a.optionsFor options = .ok o ∧ o.ComparesBlank query) ∧
      ∀ options o limit, a.Accepts query connection options o limit →
        Regular (Task.traceIn s (a.analyze query connection options) w) →
        (∀ e ∈ (Task.traceIn s (a.analyze query connection options) w).exchanges, ¬ e.Breaks) →
        (Task.RefusedFirst s w (a.analyze query connection options) ↔ ¬ o.ComparesBlank query) := by
  have hanalyze (options : Option Analysis.Options) :
      Task.RefusedFirst s w (a.analyze query connection options) ∨
        (Task.runIn s (a.analyze query connection options) w).result =
            .error (.invalidInput .blankQueryText) ∧
          ∃ o, a.optionsFor options = .ok o ∧ o.ComparesBlank query := by
    refine or_iff_not_imp_left.mpr fun hlate => ?_
    obtain ⟨fault, hr, hcalls⟩ : ∃ fault,
        (Task.runIn s (a.analyze query connection options) w).result =
          .error (.invalidInput fault) ∧
        (Task.runIn s (a.analyze query connection options) w).calls ≠ [] := by
      simpa [Task.RefusedFirst] using hlate
    obtain ⟨rfl, hblank⟩ :=
      (Task.calls_of_refusesEarly (refusesEarly_analyze hparses options) hserver hr).resolve_left
        hcalls
    exact ⟨hr, hblank⟩
  refine ⟨?_, ?_, ?_, hanalyze, ?_⟩
  · exact fun iterations warmup =>
      Task.refusedFirst_of_early hserver (refusesEarly_benchmark iterations warmup)
  · exact fun iterations warmup =>
      Task.refusedFirst_of_early hserver (refusesEarly_compare iterations warmup)
  · exact Task.refusedFirst_of_early hserver refusesEarly_indexes
  · intro options o limit haccepts hreg hnone
    constructor
    · intro hfirst hblank
      obtain ⟨hr, hcalls⟩ := analyze_refuses_late hparses haccepts hblank hreg hnone
      exact hcalls (hfirst _ hr)
    · intro hkept
      refine (hanalyze options).resolve_right ?_
      rintro ⟨-, o', ho', hblank⟩
      obtain rfl : o = o' := Except.ok.inj (haccepts.options.symm.trans ho')
      exact hkept hblank

def briefOptions : Analysis.Options where
  maxExecutionTimeMs := 0
  analyzePlan := false
  analyzeIndexes := false
  collectStatistics := false
  comparisonIterations := 1
  comparisonWarmup := 0

/-- A trace of answers without content and of a clock that stands still. -/
theorem regular_of_empty {t : Trace Binary64}
    (hempty : ∀ e ∈ t.exchanges, e.IsEmpty ∧ e.failure? = none)
    (hreadings : ∀ x ∈ t.readings, x = .zero)
    (hlength : t.exchanges.length < Measure.listBound) :
    Regular t ∧ ∀ e ∈ t.exchanges, ¬ e.Breaks := by
  refine ⟨⟨fun e he => (hempty e he).1.wellTyped, ?_, ?_, hlength⟩, ?_⟩
  · intro e he failure hf
    rw [(hempty e he).2] at hf
    cases hf
  · intro x hx
    rw [hreadings x hx]
    exact Binary64.within_zero (by norm_num [Measure.readingBound])
  · exact fun e he hb => hb.2 (hempty e he).2

/-- Of two queries with a hint in them, the one that is all hint is refused late. -/
theorem all_hint_is_refused_late :
    let s : Surroundings Nat Binary64 := ⟨.failingAt [] .cancelled, stillClock⟩
    let analysis (query : String) :=
      unlimited.analyze query (some "Server=a") (some briefOptions)
    let w := World.start 0 0 none
    (∀ text, unlimited.dialect.parses text = true) ∧ s.server.RefusesNothing ∧
      ¬ Task.RefusedFirst s w (analysis "WITH (NOLOCK)") ∧
      Task.RefusedFirst s w (analysis "SELECT 1 FROM T WITH (NOLOCK)") ∧
      (Task.runIn s (unlimited.benchmark "SELECT 1" (some "Server=a") (some 0) none) w).calls =
        [] := by
  intro s analysis w
  have hparses : ∀ text, unlimited.dialect.parses text = true := fun _ => rfl
  have hserver : s.server.RefusesNothing := by
    intro st c fault
    simp [s, Server.failingAt]
  have haccepts (query : String) (hq : isBlankString query = false) :
      unlimited.Accepts query (some "Server=a") (some briefOptions) briefOptions none :=
    ⟨rfl, hq, rfl, ⟨"Server=a", rfl⟩, by decide +kernel⟩
  have hrefused (query : String) :=
    input_is_refused_first hparses hserver w query "SELECT 1" (some "Server=a")
  have hhint := regular_of_empty (t := Task.traceIn s (analysis "WITH (NOLOCK)") w)
    (by decide +kernel) (by decide +kernel) (by decide +kernel)
  have hquery := regular_of_empty
    (t := Task.traceIn s (analysis "SELECT 1 FROM T WITH (NOLOCK)") w)
    (by decide +kernel) (by decide +kernel) (by decide +kernel)
  have hall : briefOptions.ComparesBlank "WITH (NOLOCK)" := ⟨rfl, rfl, by decide +kernel⟩
  have hnotAll : ¬ briefOptions.ComparesBlank "SELECT 1 FROM T WITH (NOLOCK)" := by
    rintro ⟨-, -, hhints⟩
    exact absurd hhints (by decide +kernel)
  have hcounts : (Task.runIn s (unlimited.benchmark "SELECT 1" (some "Server=a") (some 0) none)
      w).result = .error (.invalidInput .counts) := by decide +kernel
  refine ⟨hparses, hserver, ?_, ?_, ?_⟩
  · intro hfirst
    exact ((hrefused "WITH (NOLOCK)").2.2.2.2 _ _ _ (haccepts _ (by decide)) hhint.1
      hhint.2).mp hfirst hall
  · exact ((hrefused "SELECT 1 FROM T WITH (NOLOCK)").2.2.2.2 _ _ _ (haccepts _ (by decide))
      hquery.1 hquery.2).mpr hnotAll
  · exact (hrefused "SELECT 1").1 _ _ _ hcounts

/-- The query is all hint, so nothing is left of it, and this comes out after its own runs. -/
theorem hint_alone_is_refused_late :
    let s : Surroundings Nat Binary64 := ⟨.failingAt [] .cancelled, stillClock⟩
    let task := unlimited.analyze "WITH (NOLOCK)" (some "Server=a") (some briefOptions)
    let w := World.start 0 0 none
    (∀ text, unlimited.dialect.parses text = true) ∧ s.server.RefusesNothing ∧
      (Task.runIn s task w).result = .error (.invalidInput .blankQueryText) ∧
      (Task.runIn s task w).calls ≠ [] := by
  intro s task w
  refine ⟨fun _ => rfl, ?_, ?_⟩
  · intro st c fault
    simp [s, Server.failingAt]
  · decide +kernel

end Analyzer

end QueryTuning
