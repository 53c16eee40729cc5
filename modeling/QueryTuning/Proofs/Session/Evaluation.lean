import QueryTuning.Proofs.Session.Conduct

/-!
# Servers without memory

If the response to a call does not depend on what happened before, every call has one outcome,
and what a task comes to can be evaluated step by step: only the number of clock readings so far
is handed on. A task that does not read the clock comes to the same wherever it stands.
-/

set_option autoImplicit false

namespace QueryTuning

variable {σ ν α β : Type}

namespace Server

def IsForgetful (server : Server σ) : Prop :=
  ∀ st st' c, (server.respond st c).1 = (server.respond st' c).1

def outcomeOf (server : Server σ) (w : World σ) (c : Call) (limit : TimeLimit) : c.Outcome :=
  if limit.isSpent then .error .expired else server.undisturbedOutcome c limit w

theorem IsForgetful.outcomeOf_eq {server : Server σ} (h : server.IsForgetful) (w w' : World σ)
    (c : Call) (limit : TimeLimit) :
    server.outcomeOf w c limit = server.outcomeOf w' c limit := by
  unfold outcomeOf undisturbedOutcome ending
  rw [h w.server w'.server c]

def constant (reply : (c : Call) → c.Answer) : Server Unit where
  respond _ c := (⟨some .zero, .ok (reply c)⟩, ())

theorem isForgetful_constant (reply : (c : Call) → c.Answer) : (constant reply).IsForgetful :=
  fun _ _ _ => rfl

theorem outcomeOf_constant (reply : (c : Call) → c.Answer) (w : World Unit) (c : Call)
    {limit : TimeLimit} (h : limit.isSpent = false) :
    (constant reply).outcomeOf w c limit = .ok (reply c) := by
  unfold outcomeOf undisturbedOutcome ending
  rw [if_neg (ne_true_of_eq_false h)]
  cases limit with
  | none => rfl
  | some seconds =>
    have hl : seconds.le .zero = false := h
    simp [constant, Ending.of, hl]

end Server

/-- All that a task can learn: what comes of each call under each limit, and the successive
readings of the clock. -/
structure Answers (ν : Type) where
  outcome : (c : Call) → TimeLimit → c.Outcome
  reading : Nat → ν

def Surroundings.answers (s : Surroundings σ ν) (w : World σ) : Answers ν :=
  ⟨s.server.outcomeOf w, s.clock⟩

namespace Interaction

def evaluate (answers : Answers ν) : Interaction ν α → Nat → α × Nat
  | done a, n => (a, n)
  | call _ c limit next, n => (next (answers.outcome c limit)).evaluate answers n
  | clock next, n => (next (answers.reading n)).evaluate answers (n + 1)
  | remark _ next, n => next.evaluate answers n

variable {answers : Answers ν}

theorem evaluate_bind (p : Interaction ν α) (f : α → Interaction ν β) (n : Nat) :
    (p.bind f).evaluate answers n =
      (f (p.evaluate answers n).1).evaluate answers (p.evaluate answers n).2 := by
  induction p generalizing n with
  | done a => rfl
  | call stage c limit next ih => exact ih (answers.outcome c limit) n
  | clock next ih => exact ih _ _
  | remark r next ih => exact ih n

/-- A run that nobody cancels gives what the interaction comes to. -/
theorem run_result_eq_evaluate {s : Surroundings σ ν} (h : s.server.IsForgetful)
    (start : World σ) (p : Interaction ν α) {w : World σ} (hw : w.cancelAt = none) :
    (p.run s w).result = (p.evaluate (s.answers start) w.readings).1 := by
  induction p generalizing w with
  | done a => rfl
  | call stage c limit next ih =>
    have houtcome : (s.answers start).outcome c limit = s.server.outcomeOf w c limit :=
      h.outcomeOf_eq start w c limit
    rw [evaluate, houtcome]
    cases hl : limit.isSpent with
    | true =>
      rw [run_spent s _ _ _ _ _ hl, Server.outcomeOf, if_pos hl]
      exact ih _ hw
    | false =>
      have hspared : (s.server.asked c w).isStruck (s.server.ending c limit w) = false := by
        simp [World.isStruck, Server.asked, hw]
      have hsettled := Server.settle_of_spared hspared
      have hworld : (s.server.settle c limit w).world.cancelAt = none := by
        rw [hsettled]
        exact (Server.waited_cancelAt _ _).trans hw
      have hundisturbed : (s.server.settle c limit w).outcome = s.server.outcomeOf w c limit := by
        rw [hsettled, Server.outcomeOf, if_neg (ne_true_of_eq_false hl)]
      rw [run_call s _ _ _ _ _ hl, Run.after, ih _ hworld, settle_readings, hundisturbed]
  | clock next ih => exact ih _ hw
  | remark r next ih => exact ih hw

def IsTimeless : Interaction ν α → Prop
  | done _ => True
  | call _ _ _ next => ∀ outcome, (next outcome).IsTimeless
  | clock _ => False
  | remark _ next => next.IsTimeless

theorem isTimeless_bind {p : Interaction ν α} {f : α → Interaction ν β} (hp : p.IsTimeless)
    (hf : ∀ a, (f a).IsTimeless) : (p.bind f).IsTimeless := by
  induction p with
  | done a => exact hf a
  | call stage c limit next ih => exact fun outcome => ih outcome (hp outcome)
  | clock next ih => exact hp.elim
  | remark r next ih => exact ih hp

theorem evaluate_of_isTimeless {p : Interaction ν α} (hp : p.IsTimeless) (n : Nat) :
    p.evaluate answers n = ((p.evaluate answers 0).1, n) := by
  induction p with
  | done a => rfl
  | call stage c limit next ih => exact ih (answers.outcome c limit) (hp _)
  | clock next ih => exact hp.elim
  | remark r next ih => exact ih hp

end Interaction

namespace Task

section

variable {answers : Answers ν} {task : Task ν α} {a b : α} {k m n : Nat}

def evaluate (answers : Answers ν) (task : Task ν α) (n : Nat) : Except Failure α × Nat :=
  Interaction.evaluate answers (ExceptT.run task) n

def Gives (answers : Answers ν) (task : Task ν α) (n : Nat) (a : α) (m : Nat) : Prop :=
  evaluate answers task n = (.ok a, m)

theorem Gives.unique (h : Gives answers task n a m) (h' : Gives answers task n b k) :
    a = b ∧ m = k := by
  have heq : ((Except.ok a : Except Failure α), m) = (.ok b, k) := h.symm.trans h'
  simpa using heq

theorem gives_pure : Gives answers (pure b : Task ν α) n a m ↔ b = a ∧ n = m := by
  change ((Except.ok b : Except Failure α), n) = (.ok a, m) ↔ _
  simp

theorem evaluate_bind (task : Task ν α) (f : α → Task ν β) (n : Nat) :
    evaluate answers (task >>= f) n =
      match evaluate answers task n with
      | (.ok a, m) => evaluate answers (f a) m
      | (.error failure, m) => (.error failure, m) := by
  refine (Interaction.evaluate_bind (ExceptT.run task) (ExceptT.bindCont f) n).trans ?_
  unfold evaluate
  cases Interaction.evaluate answers (ExceptT.run task) n with
  | mk result m => cases result <;> rfl

theorem Gives.of_bind {f : α → Task ν β} {b : β} (h : Gives answers (task >>= f) n b m) :
    ∃ a k, Gives answers task n a k ∧ Gives answers (f a) k b m := by
  unfold Gives at h
  rw [evaluate_bind] at h
  cases htask : evaluate answers task n with
  | mk result k =>
    rw [htask] at h
    cases result with
    | ok a => exact ⟨a, k, htask, h⟩
    | error failure => cases h

theorem Gives.bind {f : α → Task ν β} {b : β} (h : Gives answers task n a k)
    (hf : Gives answers (f a) k b m) : Gives answers (task >>= f) n b m := by
  unfold Gives at *
  rw [evaluate_bind, h]
  exact hf

theorem gives_mandatory {stage : Stage} {c : Call} {limit : TimeLimit} {answer : c.Answer}
    (h : answers.outcome c limit = .ok answer) :
    Gives answers (mandatory stage c limit) n answer n := by
  change ((answers.outcome c limit).mapError (Failure.inMandatory stage limit), n) = _
  rw [h]
  rfl

theorem gives_bestEffort {stage : Stage} {c : Call} {limit : TimeLimit} {answer : c.Answer}
    (h : answers.outcome c limit = .ok answer) :
    Gives answers (bestEffort stage c limit) n (some answer) n := by
  unfold Gives evaluate bestEffort
  rw [ExceptT.run_mk, Interaction.evaluate, h]
  rfl

theorem gives_ofValue {conversion : Except ValueFault α} (h : conversion = .ok a) :
    Gives answers (ofValue conversion) n a n := by
  subst h
  rfl

theorem Gives.of_ofInput_bind {γ : Type} {check : Except InputFault γ} {f : γ → Task ν α}
    (h : Gives answers (ofInput check >>= f) n a m) :
    ∃ c, check = .ok c ∧ Gives answers (f c) n a m := by
  obtain ⟨c, k, hcheck, hf⟩ := h.of_bind
  cases check with
  | ok d =>
    obtain ⟨rfl, rfl⟩ := gives_pure.mp hcheck
    exact ⟨d, rfl, hf⟩
  | error fault => cases hcheck

theorem Gives.of_ofValue_bind {γ : Type} {conversion : Except ValueFault γ} {f : γ → Task ν α}
    (h : Gives answers (ofValue conversion >>= f) n a m) :
    ∃ c, conversion = .ok c ∧ Gives answers (f c) n a m := by
  obtain ⟨c, k, hconversion, hf⟩ := h.of_bind
  cases conversion with
  | ok d =>
    obtain ⟨rfl, rfl⟩ := gives_pure.mp hconversion
    exact ⟨d, rfl, hf⟩
  | error fault => cases hconversion

theorem Gives.of_continued {next : Except Failure α → Interaction ν (Except Failure β)} {b : β}
    (h : Gives answers (ExceptT.mk ((ExceptT.run task).bind next)) n b m) :
    (next (evaluate answers task n).1).evaluate answers (evaluate answers task n).2 =
      (.ok b, m) :=
  (Interaction.evaluate_bind (ExceptT.run task) next n).symm.trans h

/-- A report changes no result. -/
theorem Gives.of_reporting {cancelled failed : String}
    (h : Gives answers (reporting task cancelled failed) n a m) : Gives answers task n a m := by
  have hreport := h.of_continued
  unfold Gives
  cases hr : evaluate answers task n with
  | mk result k =>
    rw [hr] at hreport
    match result with
    | .ok _ => exact hreport
    | .error .cancelled | .error (.invalidInput _) | .error (.advisory _) | .error (.fatal _ _)
    | .error (.transient _ _) | .error (.driver _) | .error (.value _) => cases hreport

theorem Gives.of_thenClose (h : Gives answers (thenClose task) n a m) :
    Gives answers task n a m := by
  have hclose := h.of_continued
  rw [Interaction.evaluate] at hclose
  unfold Gives
  cases hr : evaluate answers task n with
  | mk result k =>
    rw [hr] at hclose
    match hc : answers.outcome .close none with
    | .error .cancelled =>
      rw [hc] at hclose
      cases hclose
    | .ok _ | .error (.invalidInput _) | .error (.advisory _) | .error (.fatal _ _)
    | .error (.transient _ _) | .error (.driver _) | .error (.value _) =>
      rw [hc] at hclose
      exact hclose

def IsTimeless (task : Task ν α) : Prop := Interaction.IsTimeless (ExceptT.run task)

theorem isTimeless_pure (a : α) : IsTimeless (pure a : Task ν α) := trivial

theorem isTimeless_warn (message : String) : IsTimeless (warn message : Task ν Unit) := trivial

theorem isTimeless_ofValue (conversion : Except ValueFault α) :
    IsTimeless (ofValue conversion : Task ν α) := trivial

theorem isTimeless_bind {f : α → Task ν β} (ht : IsTimeless task) (hf : ∀ a, IsTimeless (f a)) :
    IsTimeless (task >>= f) := by
  apply Interaction.isTimeless_bind ht
  intro result
  cases result with
  | ok a => exact hf a
  | error failure => trivial

theorem isTimeless_mandatory (stage : Stage) (c : Call) (limit : TimeLimit) :
    IsTimeless (mandatory stage c limit : Task ν c.Answer) := fun _ => trivial

theorem isTimeless_bestEffort (stage : Stage) (c : Call) (limit : TimeLimit) :
    IsTimeless (bestEffort stage c limit : Task ν (Option c.Answer)) := by
  intro outcome
  match outcome with
  | .ok _ => trivial
  | .error .cancelled | .error (.invalidInput _) | .error (.advisory _) | .error (.fatal _ _)
  | .error (.transient _ _) | .error (.driver _) | .error (.value _) => trivial

/-- What a task without clock readings gives it gives anywhere. -/
theorem Gives.anywhere (h : Gives answers task n a m) (ht : IsTimeless task) :
    m = n ∧ ∀ k, Gives answers task k a k := by
  have heval (k : Nat) : evaluate answers task k = ((evaluate answers task 0).1, k) :=
    Interaction.evaluate_of_isTimeless ht k
  obtain ⟨hresult, hcount⟩ := Prod.mk.inj ((heval n).symm.trans h)
  refine ⟨hcount.symm, fun k => ?_⟩
  unfold Gives
  rw [heval k, hresult]

theorem Gives.of_inSession {connection : String} {limit : TimeLimit}
    (h : Gives answers (inSession connection limit task) n a m) :
    Gives answers task n a m := by
  obtain ⟨_, k, hopen, hclose⟩ := h.of_bind
  obtain ⟨rfl, -⟩ := hopen.anywhere (isTimeless_mandatory _ _ _)
  exact hclose.of_thenClose

end

theorem runIn_of_gives {s : Surroundings σ ν} {w : World σ} {task : Task ν α} {a : α} {m : Nat}
    (hs : s.server.IsForgetful) (hw : w.cancelAt = none)
    (h : Gives (s.answers w) task w.readings a m) : (runIn s task w).result = .ok a :=
  (Interaction.run_result_eq_evaluate hs w (ExceptT.run task) hw).trans (congrArg Prod.fst h)

/-- A run with a result was not cancelled, so the task itself gives that result. -/
theorem gives_of_runIn {s : Surroundings σ ν} {w : World σ} {task : Task ν α} {a : α}
    (hs : s.server.IsForgetful) (ht : KeepsSession task) (h : (runIn s task w).result = .ok a) :
    ∃ m, Gives (s.answers w) task w.readings a m := by
  have hundisturbed : (runIn s task w.undisturbed).result = .ok a := by
    cases hw : w.cancelAt with
    | none =>
      have hw' : w.undisturbed = w := by rw [World.undisturbed, ← hw]
      rw [hw', h]
    | some due =>
      have hlate : ¬ Interaction.IsRunningAt s due (ExceptT.run task) w := by
        intro hrunning
        have hstruck := (ht _ _ (runIn_follows s task w)).cancelled
          (Interaction.run_struck s _ w hw hrunning)
        cases h.symm.trans hstruck
      exact (Interaction.run_undisturbed s _ w hw hlate).1.symm.trans h
  have hevaluate := Interaction.run_result_eq_evaluate hs w (ExceptT.run task)
    (w := w.undisturbed) rfl
  exact ⟨_, Prod.ext (hevaluate.symm.trans hundisturbed) rfl⟩

end Task

end QueryTuning
