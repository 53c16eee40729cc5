import QueryTuning.Proofs.Session.TaskTrace

/-!
# Cancelled runs

A cancellation strikes a run that still waits for a call when it is due: that
call is cancelled. If it comes too late for every wait, the run is the one that
nobody wanted to cancel. Nothing is said here about what a task makes of its
cancelled call.
-/

set_option autoImplicit false

namespace QueryTuning

variable {σ ν α : Type}

namespace World

def undisturbed (w : World σ) : World σ := { w with cancelAt := none }

end World

def Ending.outlasts (ending : Ending) (began due : Binary64) : Bool :=
  match ending.duration? with
  | some after => Binary64.zero.lt after && due.le (began.add after)
  | none => true

theorem World.isStruck_eq {w : World σ} {due : Binary64} (h : w.cancelAt = some due)
    (ending : Ending) : w.isStruck ending = ending.outlasts w.elapsed due := by
  unfold World.isStruck Ending.outlasts
  rw [h]
  cases ending.duration? <;> rfl

namespace Server

def asked (server : Server σ) (c : Call) (w : World σ) : World σ :=
  { w with server := (server.respond w.server c).2 }

def ending (server : Server σ) (c : Call) (limit : TimeLimit) (w : World σ) : Ending :=
  Ending.of limit (server.respond w.server c).1.delay

def undisturbedOutcome (server : Server σ) (c : Call) (limit : TimeLimit) (w : World σ) :
    c.Outcome :=
  match server.ending c limit w with
  | .answered _ => (server.respond w.server c).1.outcome
  | .expired _ => .error .expired
  | .never => .error .cancelled

def keepsUntil (server : Server σ) (due : Binary64) (c : Call) (limit : TimeLimit) (w : World σ) :
    Bool :=
  (server.ending c limit w).outlasts w.elapsed due

theorem settle_of_struck {server : Server σ} {c : Call} {limit : TimeLimit} {w : World σ}
    {due : Binary64} (hw : w.cancelAt = some due) (h : server.keepsUntil due c limit w = true) :
    server.settle c limit w = ⟨.error .cancelled, (server.asked c w).struck⟩ :=
  if_pos ((World.isStruck_eq hw _).trans h)

theorem settle_of_spared {server : Server σ} {c : Call} {limit : TimeLimit} {w : World σ}
    (h : (server.asked c w).isStruck (server.ending c limit w) = false) :
    server.settle c limit w =
      ⟨server.undisturbedOutcome c limit w,
        (server.asked c w).waited (server.ending c limit w)⟩ := by
  refine (if_neg (ne_true_of_eq_false h)).trans ?_
  unfold undisturbedOutcome
  cases he : server.ending c limit w <;> unfold ending at he <;> simp only [he] <;> rfl

theorem waited_cancelAt (w : World σ) (ending : Ending) :
    (w.waited ending).cancelAt = w.cancelAt := by
  unfold World.waited
  cases ending.duration? <;> rfl

theorem settle_of_late {server : Server σ} {c : Call} {limit : TimeLimit} {w : World σ}
    {due : Binary64} (hw : w.cancelAt = some due) (h : server.keepsUntil due c limit w = false) :
    server.settle c limit w =
      ⟨server.undisturbedOutcome c limit w,
        (server.asked c w).waited (server.ending c limit w)⟩ :=
  settle_of_spared ((World.isStruck_eq hw _).trans h)

theorem settle_cancelAt {server : Server σ} {c : Call} {limit : TimeLimit} {w : World σ}
    {due : Binary64} (hw : w.cancelAt = some due) (h : server.keepsUntil due c limit w = false) :
    (server.settle c limit w).world.cancelAt = some due := by
  rw [settle_of_late hw h]
  exact (waited_cancelAt _ _).trans hw

/-- A wait that is over before the cancellation is due goes on as if there were none. -/
theorem settle_undisturbed {server : Server σ} {c : Call} {limit : TimeLimit} {w : World σ}
    {due : Binary64} (hw : w.cancelAt = some due) (h : server.keepsUntil due c limit w = false) :
    server.settle c limit w.undisturbed =
      ⟨(server.settle c limit w).outcome, (server.settle c limit w).world.undisturbed⟩ := by
  have hd : (server.ending c limit w).duration? ≠ none := by
    intro hn
    simp [keepsUntil, Ending.outlasts, hn] at h
  have hu : (server.asked c w.undisturbed).isStruck (server.ending c limit w.undisturbed) =
      false := by
    obtain ⟨after, ha⟩ := Option.ne_none_iff_exists'.mp hd
    change (server.asked c w).undisturbed.isStruck (server.ending c limit w) = false
    simp [World.isStruck, World.undisturbed, ha]
  rw [settle_of_spared hu, settle_of_late hw h]
  apply congrArg (Settled.mk _)
  change (server.asked c w).undisturbed.waited (server.ending c limit w) = _
  unfold World.waited
  cases (server.ending c limit w).duration? <;> rfl

end Server

namespace Interaction

def IsRunningAt (s : Surroundings σ ν) (due : Binary64) : Interaction ν α → World σ → Prop
  | done _, _ => False
  | call _ c limit next, w =>
    if limit.isSpent then (next (.error .expired)).IsRunningAt s due w
    else
      s.server.keepsUntil due c limit w = true ∨
        (next (s.server.settle c limit w).outcome).IsRunningAt s due
          (s.server.settle c limit w).world
  | clock next, w =>
    (next (s.clock w.readings)).IsRunningAt s due { w with readings := w.readings + 1 }
  | remark _ next, w => next.IsRunningAt s due w

theorem isRunningAt_call {s : Surroundings σ ν} {due : Binary64} {stage : Stage} {c : Call}
    {limit : TimeLimit} {next : c.Outcome → Interaction ν α} {w : World σ}
    (h : limit.isSpent = false) :
    (call stage c limit next).IsRunningAt s due w ↔
      s.server.keepsUntil due c limit w = true ∨
        (next (s.server.settle c limit w).outcome).IsRunningAt s due
          (s.server.settle c limit w).world := by
  simp [IsRunningAt, h]

theorem isRunningAt_spent {s : Surroundings σ ν} {due : Binary64} {stage : Stage} {c : Call}
    {limit : TimeLimit} {next : c.Outcome → Interaction ν α} {w : World σ}
    (h : limit.isSpent = true) :
    (call stage c limit next).IsRunningAt s due w ↔
      (next (.error .expired)).IsRunningAt s due w := by
  simp [IsRunningAt, h]

/-- A cancellation that is due while the run is in progress strikes a call. -/
theorem run_struck (s : Surroundings σ ν) (p : Interaction ν α) (w : World σ) {due : Binary64}
    (hw : w.cancelAt = some due) (h : p.IsRunningAt s due w) :
    ∃ e ∈ (p.trace s w).exchanges, e.failure? = some .cancelled := by
  induction p generalizing w with
  | done a => exact h.elim
  | call stage c limit next ih =>
    cases hl : limit.isSpent with
    | true =>
      rw [isRunningAt_spent hl] at h
      rw [trace_spent s _ _ _ _ _ hl]
      exact ih _ w hw h
    | false =>
      rw [isRunningAt_call hl] at h
      rw [trace_call s _ _ _ _ _ hl, Trace.exchanges_exchange]
      cases hk : s.server.keepsUntil due c limit w with
      | true =>
        refine ⟨_, List.mem_cons_self, ?_⟩
        rw [Server.settle_of_struck hw hk]
        rfl
      | false =>
        rw [hk] at h
        have hrest := h.resolve_left Bool.false_ne_true
        obtain ⟨e, he, hc⟩ := ih _ _ (Server.settle_cancelAt hw hk) hrest
        exact ⟨e, List.mem_cons_of_mem _ he, hc⟩
  | clock next ih => exact ih _ _ hw h
  | remark r next ih => exact ih w hw h

/-- A run that is over before its cancellation is due is the run without one. -/
theorem run_undisturbed (s : Surroundings σ ν) (p : Interaction ν α) (w : World σ)
    {due : Binary64} (hw : w.cancelAt = some due) (h : ¬ p.IsRunningAt s due w) :
    (p.run s w).result = (p.run s w.undisturbed).result ∧
      (p.run s w).events = (p.run s w.undisturbed).events := by
  induction p generalizing w with
  | done a => exact ⟨rfl, rfl⟩
  | call stage c limit next ih =>
    cases hl : limit.isSpent with
    | true =>
      rw [isRunningAt_spent hl] at h
      rw [run_spent s _ _ _ _ _ hl, run_spent s _ _ _ _ _ hl]
      exact ih _ w hw h
    | false =>
      rw [isRunningAt_call hl, not_or] at h
      have hk := eq_false_of_ne_true h.1
      obtain ⟨hr, he⟩ := ih _ _ (Server.settle_cancelAt hw hk) h.2
      rw [run_call s _ _ _ _ _ hl, run_call s _ _ _ _ _ hl, Server.settle_undisturbed hw hk]
      exact ⟨hr, congrArg (_ :: ·) he⟩
  | clock next ih => exact ih _ _ hw h
  | remark r next ih =>
    obtain ⟨hr, he⟩ := ih w hw h
    exact ⟨hr, congrArg (Event.remarked r :: ·) he⟩

end Interaction

def Task.IsRunningAt (s : Surroundings σ ν) (due : Binary64) (task : Task ν α) (w : World σ) :
    Prop :=
  Interaction.IsRunningAt s due (ExceptT.run task) w

end QueryTuning
