import QueryTuning.Proofs.Session.Cancellation

/-!
# Conduct in a session

Between opening and closing its session a task makes calls of certain kinds
only, and a cancelled call or a refused warm-up is the end of it. Both are kept
by the building blocks of tasks. A session is opened at most once, and if it was
opened it is closed once, by the last call of all.
-/

set_option autoImplicit false

namespace QueryTuning

variable {σ ν α β : Type}

namespace Failure

/-- Whether a failure at a stage is always the failure of the whole task: a cancellation, and in
a warm-up all that is neither the driver's nor fatal. -/
def isDecisive (stage : Stage) : Failure → Bool
  | cancelled => true
  | driver _ | fatal _ _ => false
  | invalidInput _ | advisory _ | transient _ _ | value _ => stage == .warmup

theorem inMandatory_of_decisive {stage : Stage} {failure : Failure} (limit : TimeLimit)
    (h : failure.isDecisive stage = true) : failure.inMandatory stage limit = failure := by
  cases failure with
  | driver error => cases h
  | _ => rfl

theorem eq_cancelled_of_decisive {stage : Stage} {failure : Failure} (hs : stage ≠ .warmup)
    (h : failure.isDecisive stage = true) : failure = cancelled := by
  cases failure with
  | cancelled => rfl
  | _ => simp [isDecisive, hs] at h

end Failure

namespace Exchange

def attempt (e : Exchange) : Call × Option Failure := (e.call, e.failure?)

theorem failure_eq_some {stage : Stage} {c : Call} {outcome : c.Outcome} {failure : Failure} :
    (Exchange.mk stage c outcome).failure? = some failure ↔ outcome = .error failure := by
  cases outcome <;> simp [failure?]

def Decides (e : Exchange) (failure : Failure) : Prop :=
  e.failure? = some failure ∧ failure.isDecisive e.stage = true

theorem decides_cancelled {e : Exchange} (h : e.failure? = some .cancelled) :
    e.Decides .cancelled :=
  ⟨h, rfl⟩

end Exchange

structure Trace.Conducted (P : Stage → Call → Prop) (t : Trace ν) (r : Except Failure α) :
    Prop where
  calls : ∀ e ∈ t.exchanges, P e.stage e.call
  decided : ∀ e ∈ t.exchanges, ∀ failure, e.Decides failure → r = .error failure

namespace Trace.Conducted

variable {P : Stage → Call → Prop} {t u : Trace ν}

theorem silent {r : Except Failure α} (h : t.exchanges = []) : t.Conducted P r :=
  ⟨by simp [h], by simp [h]⟩

theorem single {stage : Stage} {c : Call} {outcome : c.Outcome} {r : Except Failure α}
    (ht : t.exchanges = [⟨stage, c, outcome⟩]) (hP : P stage c)
    (hr : ∀ failure, outcome = .error failure → failure.isDecisive stage = true →
      r = .error failure) : t.Conducted P r := by
  constructor
  · simpa [ht] using hP
  · rintro e he failure ⟨hf, hd⟩
    rw [ht, List.mem_singleton] at he
    subst he
    exact hr failure (Exchange.failure_eq_some.mp hf) hd

/-- A task that went on had no decisive failure before. -/
theorem append {a : α} {r : Except Failure β} (h : t.Conducted P (.ok a : Except Failure α))
    (hu : u.Conducted P r) : Trace.Conducted P (t ++ u) r := by
  constructor
  · intro e he
    rw [exchanges_append, List.mem_append] at he
    exact he.elim (h.calls e) (hu.calls e)
  · intro e he failure hd
    rw [exchanges_append, List.mem_append] at he
    rcases he with he | he
    · cases h.decided e he failure hd
    · exact hu.decided e he failure hd

theorem stopped {failure : Failure} (h : t.Conducted P (.error failure : Except Failure α)) :
    t.Conducted P (.error failure : Except Failure β) := by
  constructor
  · exact h.calls
  · intro e he failure' hd
    exact congrArg _ (Except.error.inj (h.decided e he failure' hd))

end Trace.Conducted

namespace Task

def Conducts (P : Stage → Call → Prop) (task : Task ν α) : Prop :=
  ∀ (t : Trace ν) (r : Except Failure α), Follows task t r → t.Conducted P r

variable {P Q : Stage → Call → Prop}

theorem conducts_mono {task : Task ν α} (h : ∀ stage c, P stage c → Q stage c)
    (ht : Conducts P task) : Conducts Q task :=
  fun t r hf => ⟨fun e he => h _ _ ((ht t r hf).calls e he), (ht t r hf).decided⟩

theorem conducts_of_yields {task : Task ν α} {r : Except Failure α} (h : Yields task r) :
    Conducts P task :=
  fun t x hf => .silent (h t x hf).1

/-- What comes second only counts with the results that the first task can have. -/
theorem conducts_bind {task : Task ν α} {f : α → Task ν β} (ht : Conducts P task)
    (hf : ∀ (t : Trace ν) (a : α), Follows task t (.ok a) → Conducts P (f a)) :
    Conducts P (task >>= f) := by
  intro t r h
  rcases follows_bind.mp h with ⟨t₁, t₂, a, rfl, h₁, h₂⟩ | ⟨failure, h₁, rfl⟩
  · exact (ht _ _ h₁).append (hf t₁ a h₁ _ _ h₂)
  · exact (ht _ _ h₁).stopped

theorem conducts_readClock : Conducts P (readClock : Task ν ν) := by
  intro t r h
  obtain ⟨x, rfl, -⟩ := follows_readClock.mp h
  exact .silent rfl

theorem conducts_mandatory {stage : Stage} {c : Call} (limit : TimeLimit) (h : P stage c) :
    Conducts P (mandatory stage c limit : Task ν c.Answer) := by
  intro t r hf
  cases hl : limit.isSpent with
  | true =>
    obtain ⟨rfl, -⟩ := (follows_mandatory_spent hl).mp hf
    exact .silent rfl
  | false =>
    obtain ⟨outcome, rfl, rfl⟩ := (follows_mandatory hl).mp hf
    apply Trace.Conducted.single rfl h
    rintro failure rfl hd
    exact congrArg _ (Failure.inMandatory_of_decisive limit hd)

theorem conducts_bestEffort {stage : Stage} {c : Call} (limit : TimeLimit)
    (hs : stage ≠ .warmup) (h : P stage c) :
    Conducts P (bestEffort stage c limit : Task ν (Option c.Answer)) := by
  intro t r hf
  cases hl : limit.isSpent with
  | true =>
    obtain ⟨notes, rfl, -⟩ := follows_bestEffort_spent hl hf
    exact .silent (Trace.exchanges_remarks notes)
  | false =>
    obtain ⟨outcome, notes, rfl, rfl⟩ := follows_bestEffort hl hf
    have hexchanges : Trace.exchanges
        (.exchange ⟨stage, c, outcome⟩ :: notes.map Step.remark : Trace ν) =
          [⟨stage, c, outcome⟩] := by
      rw [Trace.exchanges_exchange, Trace.exchanges_remarks]
    apply Trace.Conducted.single hexchanges h
    rintro failure rfl hd
    rw [Failure.eq_cancelled_of_decisive hs hd]
    rfl

/-- A fatal failure is not decisive where it is only reported. -/
theorem conducts_onFatal {task : Task ν Unit} {report : Failure → String}
    (h : Conducts P task) : Conducts P (onFatal task report) := by
  intro t r hf
  rcases follows_onFatal hf with ⟨t', stage, cause, notes, rfl, hr, rfl⟩ | ⟨hr, -⟩
  · constructor
    · simpa using (h _ _ hr).calls
    · rintro e he failure ⟨hf, hd⟩
      rw [Trace.exchanges_append, Trace.exchanges_remarks, List.append_nil] at he
      cases (h _ _ hr).decided e he failure ⟨hf, hd⟩
      cases hd
  · exact h _ _ hr

end Task

/-- The course of one session: it was not asked for, or refused, or used for round trips and
then closed, whether or not closing failed. -/
inductive OneSession : List (Call × Option Failure) → Prop where
  | unasked : OneSession []
  | refused (connection : String) (failure : Failure) :
      OneSession [(.openSession connection, some failure)]
  | closed (connection : String) (trips : List (Call × Option Failure))
      (failure : Option Failure) (h : ∀ trip ∈ trips, trip.1.isRoundTrip = true) :
      OneSession ((.openSession connection, none) :: trips ++ [(.close, failure)])

namespace Event

def attempt? : Event → Option (Call × Option Failure)
  | called _ c failure => some (c, failure)
  | remarked _ => none

end Event

/-- The calls of a run, each with the failure it ended in, if any. -/
def Run.attempts (r : Run σ α) : List (Call × Option Failure) := r.events.filterMap Event.attempt?

namespace Task

theorem runIn_attempts (s : Surroundings σ ν) (task : Task ν α) (w : World σ) :
    (runIn s task w).attempts = (traceIn s task w).exchanges.map Exchange.attempt := by
  rw [Run.attempts, runIn, Interaction.run_events, List.filterMap_filterMap, traceIn,
    Trace.exchanges, List.map_filterMap]
  congr 1
  funext step
  cases step <;> rfl

/-- One session at most, and no decisive failure that was survived. Only a cancellation of the
closing takes the place of another failure. -/
structure SessionKept (t : Trace ν) (r : Except Failure α) : Prop where
  oneSession : OneSession (t.exchanges.map Exchange.attempt)
  cancelled : (∃ e ∈ t.exchanges, e.failure? = some .cancelled) → r = .error .cancelled
  decided : (∀ e ∈ t.exchanges, e.stage = .closeSession → e.failure? ≠ some .cancelled) →
    ∀ e ∈ t.exchanges, ∀ failure, e.Decides failure → r = .error failure

def KeepsSession (task : Task ν α) : Prop :=
  ∀ (t : Trace ν) (r : Except Failure α), Follows task t r → SessionKept t r

theorem sessionKept_nil (r : Except Failure α) : SessionKept ([] : Trace ν) r :=
  ⟨.unasked, by simp, by simp⟩

theorem sessionKept_refused {connection : String} {limit : TimeLimit} {failure : Failure} :
    SessionKept ([.exchange ⟨.openSession, .openSession connection, .error failure⟩] : Trace ν)
      (.error (failure.inMandatory .openSession limit) : Except Failure α) := by
  constructor
  · exact .refused connection failure
  · rintro ⟨e, he, hc⟩
    rw [Trace.exchanges_exchange, Trace.exchanges_nil, List.mem_singleton] at he
    subst he
    cases hc
    rfl
  · rintro - e he failure' ⟨hf, hd⟩
    rw [Trace.exchanges_exchange, Trace.exchanges_nil, List.mem_singleton] at he
    subst he
    cases hf
    rw [Failure.inMandatory_of_decisive limit hd]

theorem sessionKept_closed {P : Stage → Call → Prop} {connection : String} {t : Trace ν}
    {r : Except Failure α} {outcome : Call.close.Outcome} {notes : List Remark}
    (hP : ∀ stage c, P stage c → c.isRoundTrip = true) (h : t.Conducted P r) :
    SessionKept (.exchange ⟨.openSession, .openSession connection, .ok ()⟩ ::
        (t ++ .exchange ⟨.closeSession, .close, outcome⟩ :: notes.map Step.remark))
      (afterClosing r outcome) := by
  have hexchanges := Trace.exchanges_session ⟨.openSession, .openSession connection, .ok ()⟩
    ⟨.closeSession, .close, outcome⟩ t notes
  constructor
  · have htrips : ∀ trip ∈ t.exchanges.map Exchange.attempt, trip.1.isRoundTrip = true := by
      intro trip htrip
      obtain ⟨e, he, rfl⟩ := List.mem_map.mp htrip
      exact hP _ _ (h.calls e he)
    rw [hexchanges, List.map_cons, List.map_append]
    exact OneSession.closed connection _ _ htrips
  · rintro ⟨e, he, hc⟩
    simp only [hexchanges, List.mem_cons, List.mem_append, List.not_mem_nil, or_false] at he
    rcases he with rfl | he | rfl
    · cases hc
    · rw [h.decided e he _ (Exchange.decides_cancelled hc), afterClosing_cancelled]
    · rw [Exchange.failure_eq_some.mp hc]
      rfl
  · intro hclose e he failure hd
    have hne : outcome ≠ .error .cancelled := fun ho =>
      hclose ⟨.closeSession, .close, outcome⟩ (by simp) rfl (Exchange.failure_eq_some.mpr ho)
    rw [afterClosing_of_ne hne]
    simp only [hexchanges, List.mem_cons, List.mem_append, List.not_mem_nil, or_false] at he
    rcases he with rfl | he | rfl
    · cases hd.1
    · exact h.decided e he failure hd
    · have hs : Stage.closeSession ≠ .warmup := by decide
      obtain rfl := Failure.eq_cancelled_of_decisive hs hd.2
      exact absurd (Exchange.failure_eq_some.mp hd.1) hne

theorem keepsSession_inSession {P : Stage → Call → Prop} {connection : String}
    {limit : TimeLimit} {task : Task ν α} (hP : ∀ stage c, P stage c → c.isRoundTrip = true)
    (h : Conducts P task) : KeepsSession (inSession connection limit task) := by
  intro t r hf
  rcases follows_inSession hf with ⟨-, rfl, rfl⟩ | ⟨-, failure, rfl, rfl⟩ | ⟨-, rest, rfl, hc⟩
  · exact sessionKept_nil _
  · exact sessionKept_refused
  · obtain ⟨t', r', outcome, notes, rfl, hr, rfl⟩ := follows_thenClose hc
    exact sessionKept_closed hP (h _ _ hr)

theorem keepsSession_ofInput_bind {check : Except InputFault α} {f : α → Task ν β}
    (h : ∀ a, KeepsSession (f a)) : KeepsSession (ofInput check >>= f) := by
  intro t r hf
  rcases follows_ofInput_bind hf with ⟨a, -, hn⟩ | ⟨fault, -, rfl, rfl⟩
  · exact h a t r hn
  · exact sessionKept_nil _

theorem keepsSession_ofValue_bind {conversion : Except ValueFault α} {f : α → Task ν β}
    (h : ∀ a, KeepsSession (f a)) : KeepsSession (ofValue conversion >>= f) := by
  intro t r hf
  rcases follows_ofValue_bind hf with ⟨a, -, hn⟩ | ⟨fault, -, rfl, rfl⟩
  · exact h a t r hn
  · exact sessionKept_nil _

theorem keepsSession_reporting {task : Task ν α} {cancelled failed : String}
    (h : KeepsSession task) : KeepsSession (reporting task cancelled failed) := by
  intro t r hf
  obtain ⟨t', notes, rfl, hr⟩ := follows_reporting hf
  obtain ⟨hone, hcancelled, hdecided⟩ := h t' r hr
  constructor
  · simpa using hone
  · simpa using hcancelled
  · simpa using hdecided

end Task

end QueryTuning
