import QueryTuning.Proofs.Analysis.Replies

/-!
# Failures of a service

With a server that replies as expected or fails in its driver, a service fails
exactly if one of its mandatory round trips does. The single exception comes
before any call: a time limit that no double-precision number can hold.
-/

set_option autoImplicit false

namespace QueryTuning

open Analysis

variable {σ α : Type}

inductive Served : Stage → Call → Prop where
  | opening (connection : String) : Served .openSession (.openSession connection)
  | trip {stage : Stage} {c : Call} (h : RoundTrip stage c) : Served stage c
  | closing : Served .closeSession .close

namespace Task

theorem serves_inSession {connection : String} {limit : TimeLimit} {task : Task Binary64 α}
    (h : Conducts RoundTrip task) {t : Trace Binary64} {r : Except Failure α}
    (hf : Follows (inSession connection limit task) t r) :
    ∀ e ∈ t.exchanges, Served e.stage e.call := by
  rcases follows_inSession hf with ⟨-, rfl, -⟩ | ⟨-, failure, rfl, -⟩ | ⟨-, rest, rfl, hc⟩
  · simp
  · simpa using Served.opening connection
  · obtain ⟨t', r', outcome, notes, rfl, hr, rfl⟩ := follows_thenClose hc
    intro e he
    rw [Trace.exchanges_session] at he
    simp only [List.mem_cons, List.mem_append, List.not_mem_nil, or_false] at he
    rcases he with rfl | he | rfl
    · exact .opening connection
    · exact .trip ((h _ _ hr).calls e he)
    · exact .closing

/-- How a service with a time limit ends. Without a limit it can keep it fails at once. In
regular surroundings it fails only by a mandatory round trip. -/
def EndsWithRoundTrips (s : Surroundings σ Binary64) (w : World σ)
    (limit : Except ValueFault TimeLimit) (task : Task Binary64 α) : Prop :=
  match limit with
  | .error fault =>
    (runIn s task w).result = .error (.value fault) ∧ (runIn s task w).calls = []
  | .ok limit =>
    Regular (traceIn s task w) →
      (traceIn s task w).FailsWithBreak limit (runIn s task w).result ∧
        ∀ e ∈ (traceIn s task w).exchanges, Served e.stage e.call

def IsServiceIn (connection : String) (limit : Except ValueFault TimeLimit)
    (body : TimeLimit → Task Binary64 α) (task : Task Binary64 α) : Prop :=
  ∀ t r, Follows task t r →
    (∃ fault, limit = .error fault ∧ t = [] ∧ r = .error (.value fault)) ∨
      ∃ l t', ∃ notes : List Remark, limit = .ok l ∧ t = t' ++ notes.map Step.remark ∧
        Follows (inSession connection l (body l)) t' r

theorem isServiceIn_inSession (connection : String) (limit : Except ValueFault TimeLimit)
    (body : TimeLimit → Task Binary64 α) :
    IsServiceIn connection limit body
      (ofValue limit >>= fun l => inSession connection l (body l)) := by
  intro t r hf
  rcases follows_ofValue_bind hf with ⟨l, hl, h⟩ | ⟨fault, hfault, ht, hr⟩
  · exact Or.inr ⟨l, t, [], hl, by simp, h⟩
  · exact Or.inl ⟨fault, hfault, ht, hr⟩

theorem isServiceIn_reporting (connection : String) (limit : Except ValueFault TimeLimit)
    (body : TimeLimit → Task Binary64 α) (cancelled failed : String) :
    IsServiceIn connection limit body
      (ofValue limit >>= fun l => reporting (inSession connection l (body l)) cancelled failed) := by
  intro t r hf
  rcases follows_ofValue_bind hf with ⟨l, hl, h⟩ | ⟨fault, hfault, ht, hr⟩
  · obtain ⟨t', notes, ht, h⟩ := follows_reporting h
    exact Or.inr ⟨l, t', notes, hl, ht, h⟩
  · exact Or.inl ⟨fault, hfault, ht, hr⟩

theorem ends_at_fault {s : Surroundings σ Binary64} {w : World σ} {connection : String}
    {limit : Except ValueFault TimeLimit} {body : TimeLimit → Task Binary64 α}
    {task : Task Binary64 α} {fault : ValueFault} (htask : IsServiceIn connection limit body task)
    (hfault : limit = .error fault) :
    traceIn s task w = [] ∧ (runIn s task w).result = .error (.value fault) := by
  rcases htask _ _ (runIn_follows s task w) with ⟨fault', hf, ht, hr⟩ | ⟨l, t', notes, hl, -⟩
  · rw [hfault] at hf
    cases hf
    exact ⟨ht, hr⟩
  · rw [hfault] at hl
    cases hl

theorem endsWithRoundTrips {s : Surroundings σ Binary64} {w : World σ} {connection : String}
    {limit : Except ValueFault TimeLimit} {body : TimeLimit → Task Binary64 α}
    {task : Task Binary64 α} (htask : IsServiceIn connection limit body task)
    (hlimit : ∀ l, limit = .ok l → l.isSpent = false)
    (hsteady : ∀ l, l.isSpent = false → Analysis.Steady l (fun _ => True) (body l))
    (hconducts : ∀ l, Conducts RoundTrip (body l)) :
    EndsWithRoundTrips s w limit task := by
  unfold EndsWithRoundTrips
  rcases htask _ _ (runIn_follows s task w) with ⟨fault, rfl, -, -⟩ | ⟨l, t', notes, rfl, ht, h⟩
  · obtain ⟨ht, hr⟩ := ends_at_fault htask rfl
    refine ⟨hr, ?_⟩
    rw [runIn_calls, ht, Trace.calls_nil]
  · intro hreg
    have hx : (traceIn s task w).exchanges = t'.exchanges := by simp [ht]
    have hreg' : Regular t' := Trace.Regular.left (ht ▸ hreg)
    have hl := hlimit l rfl
    constructor
    · exact (failsWithBreak_inSession hl (hsteady l hl) h hreg').congr hx
    · rw [hx]
      exact serves_inSession (hconducts l) h

end Task

namespace Analyzer

theorem defaultLimit_unspent {a : Analyzer} {limit : TimeLimit} (h : a.defaultLimit = .ok limit) :
    limit.isSpent = false := by
  unfold defaultLimit at h
  cases hms : a.settings.commandTimeoutMs with
  | error fault =>
    rw [hms] at h
    cases h
  | ok budget =>
    rw [hms] at h
    exact TimeLimit.ofMilliseconds_unspent h

theorem protocol_check {a : Analyzer} {iterations warmup : Option Int} {query : String}
    (hn : a.checkCounts iterations warmup = .ok ()) (hq : isBlankString query = false)
    (limit : TimeLimit) : (a.protocol iterations warmup limit).check query = .ok () := by
  unfold checkCounts acceptCounts at hn
  split at hn
  · cases hn
  next h =>
    have hcounts : 1 ≤ iterations.getD a.settings.benchmarkIterations ∧
        0 ≤ warmup.getD a.settings.warmupIterations := by omega
    exact Measure.Protocol.check_ok hcounts.1 hcounts.2 hq

variable {a : Analyzer} {query optimized target : String} {connection : Option String}

theorem isService_analyze {options : Option Analysis.Options} {o : Analysis.Options}
    (ho : a.optionsFor options = .ok o) (hq : isBlankString query = false)
    (hv : o.validate = .ok ()) (hc : a.connectionFor connection = .ok target) :
    Task.IsServiceIn target (TimeLimit.ofMilliseconds o.maxExecutionTimeMs)
      (pipeline a.dialect o query) (a.analyze query connection options) := by
  rw [analyze_eq, ho, accepted_iff.mpr hq]
  change Task.IsServiceIn _ _ _ (Task.ofInput o.validate >>= _)
  rw [hv, hc]
  exact Task.isServiceIn_reporting _ _ _ _ _

theorem isService_benchmark {iterations warmup : Option Int} (hq : isBlankString query = false)
    (hn : a.checkCounts iterations warmup = .ok ())
    (hc : a.connectionFor connection = .ok target) :
    Task.IsServiceIn target a.defaultLimit
      (fun limit => Measure.benchmark query (a.protocol iterations warmup limit))
      (a.benchmark query connection iterations warmup) := by
  unfold benchmark
  rw [accepted_iff.mpr hq, hn, hc]
  exact Task.isServiceIn_inSession _ _ _

theorem isService_compare {iterations warmup : Option Int} (hq : isBlankString query = false)
    (ho : isBlankString optimized = false) (hn : a.checkCounts iterations warmup = .ok ())
    (hc : a.connectionFor connection = .ok target) :
    Task.IsServiceIn target a.defaultLimit
      (fun limit => Analysis.compare query optimized (a.protocol iterations warmup limit))
      (a.compare query optimized connection iterations warmup) := by
  unfold compare
  rw [accepted_iff.mpr hq, accepted_iff.mpr ho, hn, hc]
  exact Task.isServiceIn_inSession _ _ _

theorem isService_indexes (hq : isBlankString query = false)
    (hc : a.connectionFor connection = .ok target) :
    Task.IsServiceIn target a.defaultLimit (Index.survey query) (a.indexes query connection) := by
  rw [indexes_eq, accepted_iff.mpr hq, hc]
  exact Task.isServiceIn_inSession _ _ _

/-- Every service that was given valid arguments fails by its mandatory round trips only. -/
theorem services_end_with_round_trips (s : Surroundings σ Binary64) (w : World σ)
    (hq : isBlankString query = false) (hc : a.connectionFor connection = .ok target) :
    (∀ options o, a.optionsFor options = .ok o → o.validate = .ok () →
      isBlankString (proposal a.dialect o query) = false →
      Task.EndsWithRoundTrips s w (TimeLimit.ofMilliseconds o.maxExecutionTimeMs)
        (a.analyze query connection options)) ∧
      (∀ iterations warmup, a.checkCounts iterations warmup = .ok () →
        Task.EndsWithRoundTrips s w a.defaultLimit
          (a.benchmark query connection iterations warmup)) ∧
      (∀ optimized iterations warmup, isBlankString optimized = false →
        a.checkCounts iterations warmup = .ok () →
        Task.EndsWithRoundTrips s w a.defaultLimit
          (a.compare query optimized connection iterations warmup)) ∧
      Task.EndsWithRoundTrips s w a.defaultLimit (a.indexes query connection) := by
  have hdefault : ∀ limit, a.defaultLimit = .ok limit → limit.isSpent = false :=
    fun limit h => defaultLimit_unspent h
  have off {α : Type} {task : Task Binary64 α} (h : Task.Conducts OffCatalog task) :
      Task.Conducts RoundTrip task := Task.conducts_mono RoundTrip.of_offCatalog h
  refine ⟨?_, ?_, ?_, ?_⟩
  · intro options o ho hv hp
    apply Task.endsWithRoundTrips (isService_analyze ho hq hv hc)
    · exact fun limit h => TimeLimit.ofMilliseconds_unspent h
    · exact fun limit hl => steady_pipeline a.dialect hv hq hp hl
    · exact fun limit => conducts_pipeline a.dialect o query limit
  · intro iterations warmup hn
    apply Task.endsWithRoundTrips (isService_benchmark hq hn hc) hdefault
    · exact fun limit hl => Measure.steady_benchmark hl (protocol_check hn hq limit)
    · exact fun limit => off (Measure.conducts_benchmark query _)
  · intro optimized iterations warmup ho hn
    apply Task.endsWithRoundTrips (isService_compare hq ho hn hc) hdefault
    · exact fun limit hl =>
        steady_compare hl (protocol_check hn hq limit) (protocol_check hn ho limit)
    · exact fun limit => off (conducts_compare query optimized _)
  · apply Task.endsWithRoundTrips (isService_indexes hq hc) hdefault
    · exact fun limit hl => Index.steady_survey query hl
    · exact fun limit => Index.conducts_survey query limit

/-- A plan that the server denies ends the search for indexes at its stage. -/
theorem indexes_end_with_denied_plan :
    let s : Surroundings Nat Binary64 := ⟨.failingAt [1] (.driver .denied), stillClock⟩
    let task := unlimited.indexes "SELECT 1" (some "Server=a")
    let w := World.start 0 0 none
    isBlankString "SELECT 1" = false ∧
      unlimited.connectionFor (some "Server=a") = .ok "Server=a" ∧
      Regular (Task.traceIn s task w) ∧
      (Task.traceIn s task w).FailsWithBreak none (Task.runIn s task w).result ∧
      (Task.runIn s task w).result =
        .error (.fatal .estimatedPlan (some (.driver .denied))) := by
  intro s task w
  have hq : isBlankString "SELECT 1" = false := by decide
  have hc : unlimited.connectionFor (some "Server=a") = .ok "Server=a" := by rfl
  have hlimit : unlimited.defaultLimit = .ok none := by rfl
  have ht : (Task.traceIn s task w).exchanges =
      [⟨.openSession, .openSession "Server=a", .ok ()⟩,
        ⟨.estimatedPlan, .fetchPlan "SELECT 1" .estimated, .error (.driver .denied)⟩,
        ⟨.closeSession, .close, .ok ()⟩] := by decide +kernel
  have hreadings : (Task.traceIn s task w).readings = [] := by decide +kernel
  have hreg : Regular (Task.traceIn s task w) := by
    constructor
    · have hempty : ∀ e ∈ (Task.traceIn s task w).exchanges, e.IsEmpty := by
        rw [ht]
        decide
      exact fun e he => (hempty e he).wellTyped
    · simp [ht, Exchange.failure?]
    · rw [hreadings]
      simp
    · rw [ht]
      decide
  have hends := (services_end_with_round_trips s w hq hc).2.2.2
  rw [hlimit] at hends
  exact ⟨hq, hc, hreg, (hends hreg).1, rfl⟩

/-- A budget that is valid but too large for a number fails before the session is opened, though
no round trip failed. -/
theorem analyze_fails_by_budget :
    let o : Analysis.Options := { maxExecutionTimeMs := 2 ^ 1025, attemptRevision := false }
    let s : Surroundings Nat Binary64 := ⟨.failingAt [] .cancelled, stillClock⟩
    let task := unlimited.analyze "SELECT 1" (some "Server=a") (some o)
    let w := World.start 0 0 none
    o.validate = .ok () ∧ isBlankString (proposal unlimited.dialect o "SELECT 1") = false ∧
      Regular (Task.traceIn s task w) ∧
      (∃ failure, (Task.runIn s task w).result = .error failure) ∧
      ¬ ∃ e ∈ (Task.traceIn s task w).exchanges, e.Breaks := by
  intro o s task w
  have hq : isBlankString "SELECT 1" = false := by decide
  have hpos : ¬ (2 ^ 1025 : Int) < 0 := not_lt.mpr (by positivity)
  have hv : o.validate = .ok () := by
    unfold Options.validate
    rw [if_neg (by decide), if_neg hpos]
    rfl
  have hc : unlimited.connectionFor (some "Server=a") = .ok "Server=a" := by rfl
  have hfault := TimeLimit.ofMilliseconds_too_large (Nat.le_refl 1025)
  have ho : unlimited.optionsFor (some o) = .ok o := rfl
  obtain ⟨ht, hr⟩ := Task.ends_at_fault (s := s) (w := w) (isService_analyze ho hq hv hc) hfault
  rw [ht]
  refine ⟨hv, hq, ?_, ⟨_, hr⟩, by simp⟩
  exact ⟨by simp, by simp, by simp, by decide⟩

end Analyzer

end QueryTuning
