import QueryTuning.Proofs.Analysis.RoundTrips

/-!
# The course of a service

Every service but the revision of a text works in one session. However the
server answers and whenever the run is cancelled, a session that was opened is
closed once, by the last call, and a cancellation that strikes becomes the
result. The revision of a text makes no call.
-/

set_option autoImplicit false

namespace QueryTuning

variable {σ ν α : Type}

namespace Analyzer

theorem keepsSession_analyze (a : Analyzer) (query : String) (connection : Option String)
    (options : Option Analysis.Options) :
    Task.KeepsSession (a.analyze query connection options) := by
  rw [analyze_eq]
  apply Task.keepsSession_ofValue_bind
  intro o
  apply Task.keepsSession_ofInput_bind
  intro _
  apply Task.keepsSession_ofInput_bind
  intro _
  apply Task.keepsSession_ofInput_bind
  intro target
  apply Task.keepsSession_ofValue_bind
  intro limit
  apply Task.keepsSession_reporting
  exact Task.keepsSession_inSession (fun _ _ => RoundTrip.isRoundTrip)
    (Analysis.conducts_pipeline a.dialect o query limit)

theorem keepsSession_benchmark (a : Analyzer) (query : String) (connection : Option String)
    (iterations warmup : Option Int) :
    Task.KeepsSession (a.benchmark query connection iterations warmup) := by
  apply Task.keepsSession_ofInput_bind
  intro _
  apply Task.keepsSession_ofInput_bind
  intro _
  apply Task.keepsSession_ofInput_bind
  intro target
  apply Task.keepsSession_ofValue_bind
  intro limit
  exact Task.keepsSession_inSession (fun _ _ h => h.1.isRoundTrip)
    (Measure.conducts_benchmark query _)

theorem keepsSession_compare (a : Analyzer) (baseline optimized : String)
    (connection : Option String) (iterations warmup : Option Int) :
    Task.KeepsSession (a.compare baseline optimized connection iterations warmup) := by
  apply Task.keepsSession_ofInput_bind
  intro _
  apply Task.keepsSession_ofInput_bind
  intro _
  apply Task.keepsSession_ofInput_bind
  intro _
  apply Task.keepsSession_ofInput_bind
  intro target
  apply Task.keepsSession_ofValue_bind
  intro limit
  exact Task.keepsSession_inSession (fun _ _ h => h.1.isRoundTrip)
    (Analysis.conducts_compare baseline optimized _)

theorem keepsSession_indexes (a : Analyzer) (query : String) (connection : Option String) :
    Task.KeepsSession (a.indexes query connection :
      Task ν (List Index.Recommendation × List Index.Redundant)) := by
  rw [indexes_eq]
  apply Task.keepsSession_ofInput_bind
  intro _
  apply Task.keepsSession_ofInput_bind
  intro target
  apply Task.keepsSession_ofValue_bind
  intro limit
  exact Task.keepsSession_inSession (fun _ _ => RoundTrip.isRoundTrip)
    (Index.conducts_survey query limit)

/-- No call at all satisfies the property that the calls of a revision have. -/
theorem conducts_revise (a : Analyzer) (query : String) :
    Task.Conducts (fun _ _ => False) (a.revise query : Task ν String) := by
  have hcomposed : Task.Composed (fun _ _ => False) (fun _ => True)
      (a.revise query : Task ν String) := by
    apply Task.composed_bind (Task.composed_ofInput fun _ _ => trivial)
    intro _
    apply Task.composed_bind (Task.composed_ofInput fun _ _ => trivial)
    intro issues
    exact Analysis.composed_reviseFor a.dialect query issues
  exact hcomposed.conducts

end Analyzer

/-- The course of a task in given surroundings. Its calls are those of one session. If it is
cancelled while it is in progress, that is its result; a cancellation that comes later changes
nothing. -/
structure Task.RunsOrderly (s : Surroundings σ ν) (w : World σ) (task : Task ν α) : Prop where
  oneSession : OneSession (task.runIn s w).attempts
  cancelled : ∀ due, w.cancelAt = some due → task.IsRunningAt s due w →
    (task.runIn s w).result = .error .cancelled
  undisturbed : ∀ due, w.cancelAt = some due → ¬ task.IsRunningAt s due w →
    (task.runIn s w).result = (task.runIn s w.undisturbed).result ∧
      (task.runIn s w).events = (task.runIn s w.undisturbed).events

theorem Task.runsOrderly_of_keepsSession (s : Surroundings σ ν) (w : World σ) {task : Task ν α}
    (h : KeepsSession task) : RunsOrderly s w task := by
  have hkept := h _ _ (runIn_follows s task w)
  constructor
  · rw [runIn_attempts]
    exact hkept.oneSession
  · intro due hw hr
    exact hkept.cancelled (Interaction.run_struck s _ w hw hr)
  · intro due hw hr
    exact Interaction.run_undisturbed s _ w hw hr

/-- Every service has one session, and no cancellation of it is lost. -/
theorem services_run_orderly (a : Analyzer) (s : Surroundings σ Binary64) (w : World σ)
    (query optimized : String) (connection : Option String) (options : Option Analysis.Options)
    (iterations warmup : Option Int) :
    Task.RunsOrderly s w (a.analyze query connection options) ∧
      Task.RunsOrderly s w (a.benchmark query connection iterations warmup) ∧
      Task.RunsOrderly s w (a.compare query optimized connection iterations warmup) ∧
      Task.RunsOrderly s w (a.indexes query connection) ∧
      (Task.runIn s (a.revise query) w).calls = [] := by
  refine ⟨?_, ?_, ?_, ?_, ?_⟩
  · exact Task.runsOrderly_of_keepsSession s w (a.keepsSession_analyze query connection options)
  · exact Task.runsOrderly_of_keepsSession s w
      (a.keepsSession_benchmark query connection iterations warmup)
  · exact Task.runsOrderly_of_keepsSession s w
      (a.keepsSession_compare query optimized connection iterations warmup)
  · exact Task.runsOrderly_of_keepsSession s w (a.keepsSession_indexes query connection)
  · rw [Task.runIn_calls, Trace.calls, List.map_eq_nil_iff, List.eq_nil_iff_forall_not_mem]
    exact (a.conducts_revise query _ _ (Task.runIn_follows s _ w)).calls

end QueryTuning
