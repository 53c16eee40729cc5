import QueryTuning.Session.RoundTrip
import QueryTuning.Session.Run

/-!
# Traces

A trace tells what a run learned on its way: each call with its outcome, each
reading of the clock and each remark. An interaction follows a trace if these
answers lead it through exactly these steps. Every run follows its own trace,
so what holds of all traces that an interaction follows holds of all its runs,
whatever the server, the clock and the time of a cancellation.
-/

set_option autoImplicit false

namespace QueryTuning

instance decidableEqExcept {ε α : Type} [DecidableEq ε] [DecidableEq α] :
    DecidableEq (Except ε α)
  | .ok a, .ok b => decidable_of_iff (a = b) (by simp)
  | .error e, .error f => decidable_of_iff (e = f) (by simp)
  | .ok _, .error _ => isFalse (by simp)
  | .error _, .ok _ => isFalse (by simp)

instance : (c : Call) → DecidableEq c.Answer
  | .openSession _ | .execute _ | .close => inferInstanceAs (DecidableEq Unit)
  | .fetchAll _ _ => inferInstanceAs (DecidableEq (List Row))
  | .fetchPlan _ _ => inferInstanceAs (DecidableEq (Option String))

structure Exchange where
  stage : Stage
  call : Call
  outcome : call.Outcome
  deriving DecidableEq

namespace Exchange

def failure? (e : Exchange) : Option Failure :=
  match e.outcome with
  | .ok _ => none
  | .error failure => some failure

end Exchange

inductive Step (ν : Type) where
  | exchange (e : Exchange)
  | reading (x : ν)
  | remark (r : Remark)

abbrev Trace (ν : Type) := List (Step ν)

variable {σ ν α β : Type}

namespace Step

def exchange? : Step ν → Option Exchange
  | exchange e => some e
  | _ => none

def reading? : Step ν → Option ν
  | reading x => some x
  | _ => none

def event? : Step ν → Option Event
  | exchange e => some (.called e.stage e.call e.failure?)
  | reading _ => none
  | remark r => some (.remarked r)

end Step

namespace Trace

def exchanges (t : Trace ν) : List Exchange := t.filterMap Step.exchange?

def readings (t : Trace ν) : List ν := t.filterMap Step.reading?

def calls (t : Trace ν) : List Call := t.exchanges.map Exchange.call

@[simp] theorem exchanges_nil : exchanges ([] : Trace ν) = [] := rfl

@[simp] theorem exchanges_exchange (e : Exchange) (t : Trace ν) :
    exchanges (.exchange e :: t) = e :: t.exchanges := rfl

@[simp] theorem exchanges_reading (x : ν) (t : Trace ν) :
    exchanges (.reading x :: t) = t.exchanges := rfl

@[simp] theorem exchanges_remark (r : Remark) (t : Trace ν) :
    exchanges (.remark r :: t) = t.exchanges := rfl

@[simp] theorem exchanges_append (t u : Trace ν) :
    exchanges (t ++ u) = t.exchanges ++ u.exchanges := List.filterMap_append

@[simp] theorem readings_nil : readings ([] : Trace ν) = [] := rfl

@[simp] theorem readings_exchange (e : Exchange) (t : Trace ν) :
    readings (.exchange e :: t) = t.readings := rfl

@[simp] theorem readings_reading (x : ν) (t : Trace ν) :
    readings (.reading x :: t) = x :: t.readings := rfl

@[simp] theorem readings_remark (r : Remark) (t : Trace ν) :
    readings (.remark r :: t) = t.readings := rfl

@[simp] theorem readings_append (t u : Trace ν) :
    readings (t ++ u) = t.readings ++ u.readings := List.filterMap_append

@[simp] theorem calls_nil : calls ([] : Trace ν) = [] := rfl

@[simp] theorem calls_exchange (e : Exchange) (t : Trace ν) :
    calls (.exchange e :: t) = e.call :: t.calls := rfl

@[simp] theorem calls_reading (x : ν) (t : Trace ν) : calls (.reading x :: t) = t.calls := rfl

@[simp] theorem calls_remark (r : Remark) (t : Trace ν) : calls (.remark r :: t) = t.calls := rfl

@[simp] theorem calls_append (t u : Trace ν) : calls (t ++ u) = t.calls ++ u.calls := by
  simp [calls]

end Trace

namespace Interaction

def trace (s : Surroundings σ ν) : Interaction ν α → World σ → Trace ν
  | done _, _ => []
  | call stage c limit next, w =>
    if limit.isSpent then (next (.error .expired)).trace s w
    else
      let settled := s.server.settle c limit w
      .exchange ⟨stage, c, settled.outcome⟩ :: (next settled.outcome).trace s settled.world
  | clock next, w =>
    .reading (s.clock w.readings) ::
      (next (s.clock w.readings)).trace s { w with readings := w.readings + 1 }
  | remark r next, w => .remark r :: next.trace s w

/-- An interaction follows a trace to a result if the answers in the trace lead it there
without anything left over. A call that no time is left for leaves no step. -/
def Follows : Interaction ν α → Trace ν → α → Prop
  | done a, t, b => t = [] ∧ b = a
  | call stage c limit next, t, b =>
    if limit.isSpent then (next (.error .expired)).Follows t b
    else ∃ outcome rest, t = .exchange ⟨stage, c, outcome⟩ :: rest ∧ (next outcome).Follows rest b
  | clock next, t, b => ∃ x rest, t = .reading x :: rest ∧ (next x).Follows rest b
  | remark r next, t, b => ∃ rest, t = .remark r :: rest ∧ next.Follows rest b

theorem run_call (s : Surroundings σ ν) (stage : Stage) (c : Call) (limit : TimeLimit)
    (next : c.Outcome → Interaction ν α) (w : World σ) (h : limit.isSpent = false) :
    (call stage c limit next).run s w =
      ((next (s.server.settle c limit w).outcome).run s (s.server.settle c limit w).world).after
        (.called stage c (s.server.settle c limit w).failure?) := by
  simp [run, h]

theorem run_spent (s : Surroundings σ ν) (stage : Stage) (c : Call) (limit : TimeLimit)
    (next : c.Outcome → Interaction ν α) (w : World σ) (h : limit.isSpent = true) :
    (call stage c limit next).run s w = (next (.error .expired)).run s w := by
  simp [run, h]

theorem trace_call (s : Surroundings σ ν) (stage : Stage) (c : Call) (limit : TimeLimit)
    (next : c.Outcome → Interaction ν α) (w : World σ) (h : limit.isSpent = false) :
    (call stage c limit next).trace s w =
      .exchange ⟨stage, c, (s.server.settle c limit w).outcome⟩ ::
        (next (s.server.settle c limit w).outcome).trace s (s.server.settle c limit w).world := by
  simp [trace, h]

theorem trace_spent (s : Surroundings σ ν) (stage : Stage) (c : Call) (limit : TimeLimit)
    (next : c.Outcome → Interaction ν α) (w : World σ) (h : limit.isSpent = true) :
    (call stage c limit next).trace s w = (next (.error .expired)).trace s w := by
  simp [trace, h]

theorem follows_call {stage : Stage} {c : Call} {limit : TimeLimit}
    {next : c.Outcome → Interaction ν α} {t : Trace ν} {b : α} (h : limit.isSpent = false) :
    (call stage c limit next).Follows t b ↔
      ∃ outcome rest, t = .exchange ⟨stage, c, outcome⟩ :: rest ∧
        (next outcome).Follows rest b := by
  simp [Follows, h]

theorem follows_spent {stage : Stage} {c : Call} {limit : TimeLimit}
    {next : c.Outcome → Interaction ν α} {t : Trace ν} {b : α} (h : limit.isSpent = true) :
    (call stage c limit next).Follows t b ↔ (next (.error .expired)).Follows t b := by
  simp [Follows, h]

theorem run_follows (s : Surroundings σ ν) (p : Interaction ν α) (w : World σ) :
    p.Follows (p.trace s w) (p.run s w).result := by
  induction p generalizing w with
  | done a => exact ⟨rfl, rfl⟩
  | call stage c limit next ih =>
    cases h : limit.isSpent with
    | true =>
      rw [follows_spent h, trace_spent s _ _ _ _ _ h, run_spent s _ _ _ _ _ h]
      exact ih _ w
    | false =>
      rw [follows_call h, trace_call s _ _ _ _ _ h, run_call s _ _ _ _ _ h]
      exact ⟨_, _, rfl, ih _ _⟩
  | clock next ih => exact ⟨_, _, rfl, ih _ _⟩
  | remark r next ih => exact ⟨_, rfl, ih _⟩

theorem settled_failure {c : Call} (x : Settled σ c) (stage : Stage) :
    x.failure? = (Exchange.mk stage c x.outcome).failure? := by
  unfold Settled.failure? Exchange.failure?
  cases x.outcome <;> rfl

/-- The log of a run is what it keeps of the steps of its trace. -/
theorem run_events (s : Surroundings σ ν) (p : Interaction ν α) (w : World σ) :
    (p.run s w).events = (p.trace s w).filterMap Step.event? := by
  induction p generalizing w with
  | done a => rfl
  | call stage c limit next ih =>
    cases h : limit.isSpent with
    | true =>
      rw [trace_spent s _ _ _ _ _ h, run_spent s _ _ _ _ _ h]
      exact ih _ w
    | false =>
      rw [trace_call s _ _ _ _ _ h, run_call s _ _ _ _ _ h, Run.after, ih, settled_failure _ stage]
      rfl
  | clock next ih => exact ih _ _
  | remark r next ih =>
    rw [run, Run.after, ih]
    rfl

theorem run_calls (s : Surroundings σ ν) (p : Interaction ν α) (w : World σ) :
    (p.run s w).calls = (p.trace s w).calls := by
  rw [Run.calls, run_events, List.filterMap_filterMap, Trace.calls, Trace.exchanges,
    List.map_filterMap]
  congr 1
  funext step
  cases step <;> rfl

theorem settle_readings (server : Server σ) (c : Call) (limit : TimeLimit) (w : World σ) :
    (server.settle c limit w).world.readings = w.readings := by
  unfold Server.settle World.waited World.struck
  dsimp only
  split
  · rfl
  · cases (Ending.of limit (server.respond w.server c).1.delay).duration? <;> rfl

theorem settle_outcome (server : Server σ) (c : Call) (limit : TimeLimit) (w : World σ) :
    (server.settle c limit w).outcome = (server.respond w.server c).1.outcome ∨
      (server.settle c limit w).outcome = .error .expired ∨
      (server.settle c limit w).outcome = .error .cancelled := by
  unfold Server.settle
  dsimp only
  split
  · exact .inr (.inr rfl)
  · cases Ending.of limit (server.respond w.server c).1.delay with
    | answered after => exact .inl rfl
    | expired after => exact .inr (.inl rfl)
    | never => exact .inr (.inr rfl)

/-- What comes of a call is the server's answer unless the wait expired or was cancelled. -/
theorem outcome_of_mem_trace {s : Surroundings σ ν} {p : Interaction ν α} {w : World σ}
    {e : Exchange} (h : e ∈ (p.trace s w).exchanges) :
    (∃ st, e.outcome = (s.server.respond st e.call).1.outcome) ∨
      e.outcome = .error .expired ∨ e.outcome = .error .cancelled := by
  induction p generalizing w with
  | done a => simp [trace] at h
  | call stage c limit next ih =>
    cases hl : limit.isSpent with
    | true =>
      rw [trace_spent s _ _ _ _ _ hl] at h
      exact ih _ h
    | false =>
      rw [trace_call s _ _ _ _ _ hl, Trace.exchanges_exchange, List.mem_cons] at h
      rcases h with rfl | h
      · exact (settle_outcome s.server c limit w).imp_left fun houtcome => ⟨_, houtcome⟩
      · exact ih _ h
  | clock next ih => exact ih _ h
  | remark r next ih => exact ih h

/-- The clock is read once for each reading in the trace, in order. -/
theorem trace_readings (s : Surroundings σ ν) (p : Interaction ν α) (w : World σ) :
    (p.trace s w).readings =
      (List.range' w.readings (p.trace s w).readings.length).map s.clock := by
  induction p generalizing w with
  | done a => rfl
  | call stage c limit next ih =>
    cases h : limit.isSpent with
    | true =>
      rw [trace_spent s _ _ _ _ _ h]
      exact ih _ w
    | false =>
      rw [trace_call s _ _ _ _ _ h, Trace.readings_exchange]
      simpa only [settle_readings] using ih _ (s.server.settle c limit w).world
  | clock next ih =>
    rw [trace, Trace.readings_reading, List.length_cons, List.range'_succ, List.map_cons]
    exact congrArg _ (ih _ { w with readings := w.readings + 1 })
  | remark r next ih => exact ih w

theorem follows_bind (p : Interaction ν α) (f : α → Interaction ν β) (t : Trace ν) (b : β) :
    (p.bind f).Follows t b ↔ ∃ t₁ t₂ a, t = t₁ ++ t₂ ∧ p.Follows t₁ a ∧ (f a).Follows t₂ b := by
  induction p generalizing t with
  | done a =>
    constructor
    · intro h
      exact ⟨[], t, a, rfl, ⟨rfl, rfl⟩, h⟩
    · rintro ⟨_, t₂, _, rfl, ⟨rfl, rfl⟩, h⟩
      exact h
  | call stage c limit next ih =>
    cases h : limit.isSpent with
    | true => simpa only [bind, follows_spent h] using ih _ t
    | false =>
      simp only [bind, follows_call h]
      constructor
      · rintro ⟨o, rest, rfl, hn⟩
        obtain ⟨t₁, t₂, a, rfl, h₁, h₂⟩ := (ih o rest).mp hn
        exact ⟨_ :: t₁, t₂, a, rfl, ⟨o, t₁, rfl, h₁⟩, h₂⟩
      · rintro ⟨_, t₂, a, rfl, ⟨o, rest, rfl, h₁⟩, h₂⟩
        exact ⟨o, rest ++ t₂, rfl, (ih o _).mpr ⟨rest, t₂, a, rfl, h₁, h₂⟩⟩
  | clock next ih =>
    constructor
    · rintro ⟨x, rest, rfl, hn⟩
      obtain ⟨t₁, t₂, a, rfl, h₁, h₂⟩ := (ih x rest).mp hn
      exact ⟨_ :: t₁, t₂, a, rfl, ⟨x, t₁, rfl, h₁⟩, h₂⟩
    · rintro ⟨_, t₂, a, rfl, ⟨x, rest, rfl, h₁⟩, h₂⟩
      exact ⟨x, rest ++ t₂, rfl, (ih x _).mpr ⟨rest, t₂, a, rfl, h₁, h₂⟩⟩
  | remark r next ih =>
    constructor
    · rintro ⟨rest, rfl, hn⟩
      obtain ⟨t₁, t₂, a, rfl, h₁, h₂⟩ := (ih rest).mp hn
      exact ⟨_ :: t₁, t₂, a, rfl, ⟨t₁, rfl, h₁⟩, h₂⟩
    · rintro ⟨_, t₂, a, rfl, ⟨rest, rfl, h₁⟩, h₂⟩
      exact ⟨rest ++ t₂, rfl, (ih _).mpr ⟨rest, t₂, a, rfl, h₁, h₂⟩⟩

end Interaction

end QueryTuning
