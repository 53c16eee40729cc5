import QueryTuning.Proofs.Session.Mandatory

/-!
# Refused input

Refused input is a failure of its own kind. If the server refuses no call, no step of a task
brings it about but a check of the task itself, and so the faults that a task can find are those
of its checks. A task whose checks come first finds them before it does anything else.
-/

set_option autoImplicit false

namespace QueryTuning

variable {σ ν α β : Type}

instance decidableEqError {ε : Type} [DecidableEq ε] (r : Except ε α) (e : ε) :
    Decidable (r = .error e) :=
  match r with
  | .error f => decidable_of_iff (f = e) (by simp)
  | .ok _ => isFalse (by simp)

def Server.RefusesNothing (server : Server σ) : Prop :=
  ∀ st c fault, (server.respond st c).1.outcome ≠ .error (.invalidInput fault)

theorem Failure.eq_of_inMandatory {stage : Stage} {limit : TimeLimit} {failure : Failure}
    {fault : InputFault} (h : failure.inMandatory stage limit = invalidInput fault) :
    failure = invalidInput fault := by
  cases failure with
  | driver error => cases h
  | _ => exact h

namespace Trace

def Unrefused (t : Trace ν) : Prop :=
  ∀ e ∈ t.exchanges, ∀ fault, e.failure? ≠ some (.invalidInput fault)

variable {t u : Trace ν}

theorem Unrefused.sub (h : t.Unrefused) (hu : u.exchanges ⊆ t.exchanges) : u.Unrefused :=
  fun e he => h e (hu he)

theorem Unrefused.left (h : Unrefused (t ++ u)) : t.Unrefused :=
  h.sub (by simp)

theorem Unrefused.right (h : Unrefused (t ++ u)) : u.Unrefused :=
  h.sub (by simp)

end Trace

namespace Task

theorem unrefused_traceIn {s : Surroundings σ ν} (h : s.server.RefusesNothing) (task : Task ν α)
    (w : World σ) : (traceIn s task w).Unrefused := by
  rintro ⟨stage, c, outcome⟩ he fault hf
  obtain rfl := Exchange.failure_eq_some.mp hf
  rcases Interaction.outcome_of_mem_trace he with ⟨st, ho⟩ | ho | ho
  · exact h st c fault ho.symm
  · cases ho
  · cases ho

def RefusesOnly (F : InputFault → Prop) (task : Task ν α) : Prop :=
  ∀ (t : Trace ν) (r : Except Failure α), Follows task t r → t.Unrefused →
    ∀ fault, r = .error (.invalidInput fault) → F fault

section

variable {F : InputFault → Prop} {stage : Stage} {c : Call} {limit : TimeLimit}

theorem refusesOnly_of_yields {task : Task ν α} {r : Except Failure α} (h : Yields task r)
    (hr : ∀ fault, r = .error (.invalidInput fault) → F fault) : RefusesOnly F task := by
  intro t x hf _ fault hx
  exact hr fault ((h t x hf).2.2 ▸ hx)

theorem refusesOnly_readClock : RefusesOnly F (readClock : Task ν ν) := by
  intro t r hf _ fault hr
  obtain ⟨x, -, rfl⟩ := follows_readClock.mp hf
  cases hr

/-- What comes second only counts with the results that the first task can have. -/
theorem refusesOnly_bind {task : Task ν α} {f : α → Task ν β} (ht : RefusesOnly F task)
    (hf : ∀ (t : Trace ν) (a : α), Follows task t (.ok a) → RefusesOnly F (f a)) :
    RefusesOnly F (task >>= f) := by
  intro t r h hu fault hr
  rcases follows_bind.mp h with ⟨t₁, t₂, a, rfl, h₁, h₂⟩ | ⟨failure, h₁, rfl⟩
  · exact hf t₁ a h₁ _ _ h₂ hu.right fault hr
  · cases hr
    exact ht _ _ h₁ hu fault rfl

theorem refusesOnly_mandatory : RefusesOnly F (mandatory stage c limit : Task ν c.Answer) := by
  intro t r hf hu fault hr
  cases hl : limit.isSpent with
  | true =>
    obtain ⟨-, rfl⟩ := (follows_mandatory_spent hl).mp hf
    cases hr
  | false =>
    obtain ⟨outcome, rfl, rfl⟩ := (follows_mandatory hl).mp hf
    cases outcome with
    | ok answer => cases hr
    | error failure =>
      have hfailure := Failure.eq_of_inMandatory (Except.error.inj hr)
      exact absurd (congrArg some hfailure) (hu _ List.mem_cons_self fault)

theorem refusesOnly_bestEffort :
    RefusesOnly F (bestEffort stage c limit : Task ν (Option c.Answer)) := by
  intro t r hf _ fault hr
  cases hl : limit.isSpent with
  | true =>
    obtain ⟨notes, -, rfl⟩ := follows_bestEffort_spent hl hf
    cases hr
  | false =>
    obtain ⟨outcome, notes, -, rfl⟩ := follows_bestEffort hl hf
    match outcome with
    | .ok _ | .error .cancelled | .error (.invalidInput _) | .error (.advisory _)
    | .error (.fatal _ _) | .error (.transient _ _) | .error (.driver _) | .error (.value _) =>
      cases hr

theorem refusesOnly_onFatal {task : Task ν Unit} {report : Failure → String}
    (h : RefusesOnly F task) : RefusesOnly F (onFatal task report) := by
  intro t r hf hu fault hr
  rcases follows_onFatal hf with ⟨_, _, _, _, -, -, rfl⟩ | ⟨htask, -⟩
  · cases hr
  · exact h t r htask hu fault hr

theorem refusesOnly_thenClose {task : Task ν α} (h : RefusesOnly F task) :
    RefusesOnly F (thenClose task) := by
  intro t r hf hu fault hr
  obtain ⟨t', r', outcome, notes, rfl, htask, rfl⟩ := follows_thenClose hf
  have hne : outcome ≠ .error .cancelled := by
    rintro rfl
    cases hr
  rw [afterClosing_of_ne hne] at hr
  exact h t' r' htask hu.left fault hr

theorem refusesOnly_inSession {connection : String} {task : Task ν α} (h : RefusesOnly F task) :
    RefusesOnly F (inSession connection limit task) :=
  refusesOnly_bind refusesOnly_mandatory fun _ _ _ => refusesOnly_thenClose h

theorem refusesOnly_reporting {task : Task ν α} {cancelled failed : String}
    (h : RefusesOnly F task) : RefusesOnly F (reporting task cancelled failed) := by
  intro t r hf hu fault hr
  obtain ⟨t', notes, rfl, htask⟩ := follows_reporting hf
  exact h t' r htask hu.left fault hr

/-- Unless a call is refused, the task finds fault with its input before its first step, apart
from the faults of a kind. -/
def RefusesEarly (F : InputFault → Prop) (task : Task ν α) : Prop :=
  ∀ (t : Trace ν) (r : Except Failure α), Follows task t r → t.Unrefused →
    ∀ fault, r = .error (.invalidInput fault) → t = [] ∨ F fault

theorem RefusesOnly.early {task : Task ν α} (h : RefusesOnly F task) : RefusesEarly F task :=
  fun t r hf hu fault hr => .inr (h t r hf hu fault hr)

theorem refusesEarly_ofInput_bind {check : Except InputFault α} {f : α → Task ν β}
    (h : ∀ a, check = .ok a → RefusesEarly F (f a)) : RefusesEarly F (ofInput check >>= f) := by
  intro t r hf hu fault hr
  rcases follows_ofInput_bind hf with ⟨a, ha, hrest⟩ | ⟨-, -, ht, -⟩
  · exact h a ha t r hrest hu fault hr
  · exact .inl ht

theorem refusesEarly_ofValue_bind {conversion : Except ValueFault α} {f : α → Task ν β}
    (h : ∀ a, conversion = .ok a → RefusesEarly F (f a)) :
    RefusesEarly F (ofValue conversion >>= f) := by
  intro t r hf hu fault hr
  rcases follows_ofValue_bind hf with ⟨a, ha, hrest⟩ | ⟨-, -, ht, -⟩
  · exact h a ha t r hrest hu fault hr
  · exact .inl ht

theorem calls_of_refusesEarly {s : Surroundings σ ν} {w : World σ} {task : Task ν α}
    (h : RefusesEarly F task) (hs : s.server.RefusesNothing) {fault : InputFault}
    (hr : (runIn s task w).result = .error (.invalidInput fault)) :
    (runIn s task w).calls = [] ∨ F fault := by
  rw [runIn_calls]
  refine (h _ _ (runIn_follows s task w) (unrefused_traceIn hs task w) fault hr).imp_left ?_
  intro ht
  rw [ht, Trace.calls_nil]

end

def Refuses (A : Exchange → Prop) (X : ν → Prop) (bound : Nat) (limit : TimeLimit)
    (fault : InputFault) (task : Task ν α) : Prop :=
  ∀ (t : Trace ν) (r : Except Failure α), Follows task t r → t.Regular A X bound →
    (r = .error (.invalidInput fault) ∧ ∀ e ∈ t.exchanges, ¬ e.Breaks) ∨ t.StoppedAtBreak limit r

variable {A : Exchange → Prop} {X : ν → Prop} {bound : Nat} {limit : TimeLimit}
  {fault : InputFault} {Q : α → Prop}

theorem refuses_ofInput_bind {check : Except InputFault α} (h : check = .error fault)
    (f : α → Task ν β) : Refuses A X bound limit fault (ofInput check >>= f) := by
  intro t r hf _
  rcases follows_ofInput_bind hf with ⟨a, ha, -⟩ | ⟨found, hfound, rfl, rfl⟩
  · rw [h] at ha
    cases ha
  · rw [h] at hfound
    cases hfound
    exact .inl ⟨rfl, by simp⟩

theorem refuses_bind {task : Task ν α} (h : Refuses A X bound limit fault task)
    (f : α → Task ν β) : Refuses A X bound limit fault (task >>= f) := by
  intro t r hf ht
  rcases follows_bind.mp hf with ⟨t₁, t₂, a, rfl, h₁, -⟩ | ⟨failure, h₁, rfl⟩
  · rcases h _ _ h₁ ht.left with ⟨hr, -⟩ | ⟨_, _, _, _, _, _, _, hr⟩ <;> cases hr
  · rcases h _ _ h₁ ht with ⟨hr, hnone⟩ | ⟨before, e, error, hx, hbefore, hm, hd, hr⟩
    · cases hr
      exact .inl ⟨rfl, hnone⟩
    · cases hr
      exact .inr ⟨before, e, error, hx, hbefore, hm, hd, rfl⟩

/-- A task that gives its result leads up to one that refuses. -/
theorem refuses_after {task : Task ν α} {f : α → Task ν β} (ht : Steady A X bound limit Q task)
    (hf : ∀ a, Q a → Refuses A X bound limit fault (f a)) :
    Refuses A X bound limit fault (task >>= f) := by
  intro t r h hreg
  rcases follows_bind.mp h with ⟨t₁, t₂, a, rfl, h₁, h₂⟩ | ⟨failure, h₁, rfl⟩
  · rcases ht _ _ h₁ hreg.left with ⟨b, hb, hQ, hnone⟩ | ⟨_, _, _, _, _, _, _, hr⟩
    · cases hb
      rcases hf a hQ _ _ h₂ hreg.right with ⟨hr, hrest⟩ | hstop
      · refine .inl ⟨hr, ?_⟩
        intro e he
        rw [Trace.exchanges_append, List.mem_append] at he
        exact he.elim (hnone e) (hrest e)
      · exact .inr (hstop.after hnone)
    · cases hr
  · rcases ht _ _ h₁ hreg with ⟨_, hr, -⟩ | ⟨before, e, error, hx, hbefore, hm, hd, hr⟩
    · cases hr
    · cases hr
      exact .inr ⟨before, e, error, hx, hbefore, hm, hd, rfl⟩

/-- If no mandatory round trip fails, the fault is found in an open session. -/
theorem refused_inSession {connection : String} {task : Task ν α} {t : Trace ν}
    {r : Except Failure α} (hl : limit.isSpent = false)
    (h : Refuses A X bound limit fault task)
    (hf : Follows (inSession connection limit task) t r) (ht : t.Regular A X bound)
    (hnone : ∀ e ∈ t.exchanges, ¬ e.Breaks) :
    r = .error (.invalidInput fault) ∧ t.calls ≠ [] := by
  rcases follows_inSession hf with ⟨hspent, -⟩ | ⟨-, failure, rfl, -⟩ | ⟨-, rest, rfl, hc⟩
  · rw [hl] at hspent
    cases hspent
  · exact absurd ⟨rfl, by simp [Exchange.failure?]⟩ (hnone _ List.mem_cons_self)
  · obtain ⟨t', r', outcome, notes, rfl, hr, rfl⟩ := follows_thenClose hc
    have hne : outcome ≠ .error .cancelled := by
      rintro rfl
      obtain ⟨error, herror⟩ := ht.failures ⟨.closeSession, .close, .error .cancelled⟩
        (by simp) .cancelled rfl
      cases herror
    have hreg : t'.Regular A X bound := (Trace.Regular.right (t := [.exchange _]) ht).left
    rw [afterClosing_of_ne hne]
    refine ⟨?_, by simp⟩
    rcases h _ _ hr hreg with ⟨hrefused, -⟩ | ⟨before, e, error, hx, -, hm, hd, -⟩
    · exact hrefused
    · have hmem : e ∈ t'.exchanges := by simp [hx]
      exact absurd ⟨hm, by simp [hd]⟩ (hnone e (by simp [hmem]))

end Task

end QueryTuning
