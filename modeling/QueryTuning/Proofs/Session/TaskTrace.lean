import QueryTuning.Proofs.Session.Trace

/-!
# Traces of tasks

What the building blocks of a task do, told by the traces they follow. A task
stops at its first failure; a round trip leaves one exchange; whatever is only
reported leaves remarks behind and nothing else.
-/

set_option autoImplicit false

namespace QueryTuning

variable {σ ν α β : Type}

instance : LawfulMonad (Interaction ν) :=
  LawfulMonad.mk' (Interaction ν) Interaction.bind_done (fun _ _ => rfl) Interaction.bind_assoc

namespace Trace

@[simp] theorem exchanges_remarks (notes : List Remark) :
    exchanges (notes.map Step.remark : Trace ν) = [] := by
  induction notes with
  | nil => rfl
  | cons r notes ih => exact ih

@[simp] theorem readings_remarks (notes : List Remark) :
    readings (notes.map Step.remark : Trace ν) = [] := by
  induction notes with
  | nil => rfl
  | cons r notes ih => exact ih

@[simp] theorem calls_remarks (notes : List Remark) :
    calls (notes.map Step.remark : Trace ν) = [] := by simp [calls]

theorem exchanges_session (first last : Exchange) (t : Trace ν) (notes : List Remark) :
    exchanges (.exchange first :: (t ++ .exchange last :: notes.map Step.remark)) =
      first :: (t.exchanges ++ [last]) := by simp

end Trace

namespace Task

def traceIn (s : Surroundings σ ν) (task : Task ν α) (w : World σ) : Trace ν :=
  Interaction.trace s (ExceptT.run task) w

def Follows (task : Task ν α) (t : Trace ν) (r : Except Failure α) : Prop :=
  Interaction.Follows (ExceptT.run task) t r

theorem runIn_follows (s : Surroundings σ ν) (task : Task ν α) (w : World σ) :
    Follows task (traceIn s task w) (runIn s task w).result :=
  Interaction.run_follows s _ w

theorem runIn_calls (s : Surroundings σ ν) (task : Task ν α) (w : World σ) :
    (runIn s task w).calls = (traceIn s task w).calls :=
  Interaction.run_calls s _ w

variable {t : Trace ν} {limit : TimeLimit} {stage : Stage} {c : Call}

theorem follows_pure {a : α} {r : Except Failure α} :
    Follows (pure a : Task ν α) t r ↔ t = [] ∧ r = .ok a := Iff.rfl

theorem follows_bind {task : Task ν α} {f : α → Task ν β} {r : Except Failure β} :
    Follows (task >>= f) t r ↔
      (∃ t₁ t₂ a, t = t₁ ++ t₂ ∧ Follows task t₁ (.ok a) ∧ Follows (f a) t₂ r) ∨
        ∃ failure, Follows task t (.error failure) ∧ r = .error failure := by
  have h := Interaction.follows_bind (ExceptT.run task) (ExceptT.bindCont f) t r
  constructor
  · intro hb
    obtain ⟨t₁, t₂, x, rfl, h₁, h₂⟩ := h.mp hb
    cases x with
    | ok a => exact Or.inl ⟨t₁, t₂, a, rfl, h₁, h₂⟩
    | error failure =>
      obtain ⟨rfl, rfl⟩ := h₂
      rw [List.append_nil]
      exact Or.inr ⟨failure, h₁, rfl⟩
  · rintro (⟨t₁, t₂, a, rfl, h₁, h₂⟩ | ⟨failure, h₁, rfl⟩)
    · exact h.mpr ⟨t₁, t₂, .ok a, rfl, h₁, h₂⟩
    · exact h.mpr ⟨t, [], .error failure, by simp, h₁, rfl, rfl⟩

theorem follows_ok_bind {task : Task ν α} {f : α → Task ν β} {b : β}
    (h : Follows (task >>= f) t (.ok b)) :
    ∃ t₁ t₂ a, t = t₁ ++ t₂ ∧ Follows task t₁ (.ok a) ∧ Follows (f a) t₂ (.ok b) := by
  rcases follows_bind.mp h with h | ⟨failure, -, hr⟩
  · exact h
  · cases hr

theorem follows_warn {message : String} {r : Except Failure Unit} :
    Follows (warn message : Task ν Unit) t r ↔
      t = [.remark ⟨.warning, message⟩] ∧ r = .ok () := by
  constructor
  · rintro ⟨_, rfl, rfl, rfl⟩
    exact ⟨rfl, rfl⟩
  · rintro ⟨rfl, rfl⟩
    exact ⟨_, rfl, rfl, rfl⟩

theorem follows_readClock {r : Except Failure ν} :
    Follows (readClock : Task ν ν) t r ↔ ∃ x, t = [.reading x] ∧ r = .ok x := by
  constructor
  · rintro ⟨x, _, rfl, rfl, rfl⟩
    exact ⟨x, rfl, rfl⟩
  · rintro ⟨x, rfl, rfl⟩
    exact ⟨x, _, rfl, rfl, rfl⟩

theorem follows_ofValue {conversion : Except ValueFault α} {r : Except Failure α} :
    Follows (ofValue conversion : Task ν α) t r ↔ t = [] ∧ r = conversion.mapError .value :=
  Iff.rfl

theorem follows_ofInput {check : Except InputFault α} {r : Except Failure α} :
    Follows (ofInput check : Task ν α) t r ↔ t = [] ∧ r = check.mapError .invalidInput :=
  Iff.rfl

theorem follows_ofValue_ok {conversion : Except ValueFault α} {a : α}
    (hf : Follows (ofValue conversion : Task ν α) t (.ok a)) : t = [] ∧ conversion = .ok a := by
  obtain ⟨rfl, hr⟩ := follows_ofValue.mp hf
  cases conversion with
  | ok b =>
    cases hr
    exact ⟨rfl, rfl⟩
  | error fault => cases hr

def Yields (task : Task ν α) (r : Except Failure α) : Prop :=
  ∀ (t : Trace ν) (x : Except Failure α), Follows task t x →
    t.exchanges = [] ∧ t.readings = [] ∧ x = r

theorem yields_pure (a : α) : Yields (pure a : Task ν α) (.ok a) := by
  intro t x h
  obtain ⟨rfl, rfl⟩ := follows_pure.mp h
  exact ⟨rfl, rfl, rfl⟩

theorem yields_warn (message : String) : Yields (warn message : Task ν Unit) (.ok ()) := by
  intro t x h
  obtain ⟨rfl, rfl⟩ := follows_warn.mp h
  exact ⟨rfl, rfl, rfl⟩

theorem yields_ofValue (conversion : Except ValueFault α) :
    Yields (ofValue conversion : Task ν α) (conversion.mapError .value) := by
  intro t x h
  obtain ⟨rfl, rfl⟩ := follows_ofValue.mp h
  exact ⟨rfl, rfl, rfl⟩

theorem yields_ofInput (check : Except InputFault α) :
    Yields (ofInput check : Task ν α) (check.mapError .invalidInput) := by
  intro t x h
  obtain ⟨rfl, rfl⟩ := follows_ofInput.mp h
  exact ⟨rfl, rfl, rfl⟩

theorem yields_bind {task : Task ν α} {f : α → Task ν β} {a : α} {r : Except Failure β}
    (h : Yields task (.ok a)) (hf : Yields (f a) r) : Yields (task >>= f) r := by
  intro t x hx
  rcases follows_bind.mp hx with ⟨t₁, t₂, b, rfl, h₁, h₂⟩ | ⟨failure, h₁, rfl⟩
  · obtain ⟨ht, hr, hb⟩ := h t₁ _ h₁
    cases hb
    obtain ⟨ht', hr', rfl⟩ := hf t₂ x h₂
    rw [Trace.exchanges_append, Trace.readings_append, ht, hr, ht', hr']
    exact ⟨rfl, rfl, rfl⟩
  · cases (h t _ h₁).2.2

theorem yields_stopped {task : Task ν α} {failure : Failure} (h : Yields task (.error failure))
    (f : α → Task ν β) : Yields (task >>= f) (.error failure) := by
  intro t x hf
  rcases follows_bind.mp hf with ⟨t₁, t₂, a, rfl, h₁, -⟩ | ⟨failure', h₁, rfl⟩
  · cases (h t₁ _ h₁).2.2
  · obtain ⟨ht, hr, hx⟩ := h t _ h₁
    cases hx
    exact ⟨ht, hr, rfl⟩

/-- A check either refuses, and then nothing else happens, or leaves no step of its own. -/
theorem follows_ofInput_bind {check : Except InputFault α} {f : α → Task ν β}
    {r : Except Failure β} (hf : Follows (ofInput check >>= f) t r) :
    (∃ a, check = .ok a ∧ Follows (f a) t r) ∨
      ∃ fault, check = .error fault ∧ t = [] ∧ r = .error (.invalidInput fault) := by
  rcases follows_bind.mp hf with ⟨_, _, a, rfl, ⟨rfl, hc⟩, h⟩ | ⟨failure, ⟨rfl, hc⟩, rfl⟩
  · cases check with
    | ok b =>
      cases hc
      exact Or.inl ⟨a, rfl, h⟩
    | error fault => cases hc
  · cases check with
    | ok b => cases hc
    | error fault =>
      cases hc
      exact Or.inr ⟨fault, rfl, rfl, rfl⟩

theorem follows_ofValue_bind {conversion : Except ValueFault α} {f : α → Task ν β}
    {r : Except Failure β} (hf : Follows (ofValue conversion >>= f) t r) :
    (∃ a, conversion = .ok a ∧ Follows (f a) t r) ∨
      ∃ fault, conversion = .error fault ∧ t = [] ∧ r = .error (.value fault) := by
  rcases follows_bind.mp hf with ⟨_, _, a, rfl, ⟨rfl, hc⟩, h⟩ | ⟨failure, ⟨rfl, hc⟩, rfl⟩
  · cases conversion with
    | ok b =>
      cases hc
      exact Or.inl ⟨a, rfl, h⟩
    | error fault => cases hc
  · cases conversion with
    | ok b => cases hc
    | error fault =>
      cases hc
      exact Or.inr ⟨fault, rfl, rfl, rfl⟩

theorem follows_mandatory {r : Except Failure c.Answer} (h : limit.isSpent = false) :
    Follows (mandatory stage c limit : Task ν c.Answer) t r ↔
      ∃ outcome : c.Outcome, t = [.exchange ⟨stage, c, outcome⟩] ∧
        r = outcome.mapError (Failure.inMandatory stage limit) := by
  refine (Interaction.follows_call h).trans ⟨?_, ?_⟩
  · rintro ⟨outcome, _, rfl, rfl, rfl⟩
    exact ⟨outcome, rfl, rfl⟩
  · rintro ⟨outcome, rfl, rfl⟩
    exact ⟨outcome, _, rfl, rfl, rfl⟩

theorem follows_mandatory_spent {r : Except Failure c.Answer} (h : limit.isSpent = true) :
    Follows (mandatory stage c limit : Task ν c.Answer) t r ↔
      t = [] ∧ r = .error (.fatal stage (some (.timedOut limit))) :=
  Interaction.follows_spent h

/-- A mandatory round trip that went well. -/
theorem follows_mandatory_ok {answer : c.Answer}
    (hf : Follows (mandatory stage c limit : Task ν c.Answer) t (.ok answer)) :
    limit.isSpent = false ∧ t = [.exchange ⟨stage, c, .ok answer⟩] := by
  cases hl : limit.isSpent with
  | true => cases ((follows_mandatory_spent hl).mp hf).2
  | false =>
    obtain ⟨outcome, rfl, hr⟩ := (follows_mandatory hl).mp hf
    cases outcome with
    | ok answer' =>
      cases hr
      exact ⟨rfl, rfl⟩
    | error failure => cases hr

def optionally : c.Outcome → Except Failure (Option c.Answer)
  | .ok answer => .ok (some answer)
  | .error .cancelled => .error .cancelled
  | .error _ => .ok none

theorem follows_bestEffort {r : Except Failure (Option c.Answer)} (h : limit.isSpent = false)
    (hf : Follows (bestEffort stage c limit : Task ν (Option c.Answer)) t r) :
    ∃ (outcome : c.Outcome) (notes : List Remark),
      t = .exchange ⟨stage, c, outcome⟩ :: notes.map Step.remark ∧ r = optionally outcome := by
  obtain ⟨outcome, rest, rfl, hn⟩ := (Interaction.follows_call h).mp hf
  match outcome with
  | .ok answer =>
    obtain ⟨rfl, rfl⟩ := hn
    exact ⟨_, [], rfl, rfl⟩
  | .error .cancelled =>
    obtain ⟨rfl, rfl⟩ := hn
    exact ⟨_, [], rfl, rfl⟩
  | .error (.invalidInput _) | .error (.advisory _) | .error (.fatal _ _)
  | .error (.transient _ _) | .error (.driver _) | .error (.value _) =>
    obtain ⟨_, rfl, rfl, rfl⟩ := hn
    exact ⟨_, [_], rfl, rfl⟩

theorem follows_bestEffort_spent {r : Except Failure (Option c.Answer)}
    (h : limit.isSpent = true)
    (hf : Follows (bestEffort stage c limit : Task ν (Option c.Answer)) t r) :
    ∃ notes : List Remark, t = notes.map Step.remark ∧ r = .ok none := by
  obtain ⟨_, rfl, rfl, rfl⟩ := (Interaction.follows_spent h).mp hf
  exact ⟨[_], rfl, rfl⟩

def afterClosing (r : Except Failure α) : Call.close.Outcome → Except Failure α
  | .error .cancelled => .error .cancelled
  | _ => r

theorem afterClosing_cancelled (outcome : Call.close.Outcome) :
    afterClosing (.error .cancelled : Except Failure α) outcome = .error .cancelled := by
  match outcome with
  | .ok () => rfl
  | .error .cancelled => rfl
  | .error (.invalidInput _) | .error (.advisory _) | .error (.fatal _ _)
  | .error (.transient _ _) | .error (.driver _) | .error (.value _) => rfl

theorem afterClosing_of_ne {outcome : Call.close.Outcome} (h : outcome ≠ .error .cancelled)
    (r : Except Failure α) : afterClosing r outcome = r := by
  match outcome with
  | .ok () => rfl
  | .error .cancelled => exact absurd rfl h
  | .error (.invalidInput _) | .error (.advisory _) | .error (.fatal _ _)
  | .error (.transient _ _) | .error (.driver _) | .error (.value _) => rfl

theorem follows_thenClose {task : Task ν α} {r : Except Failure α}
    (hf : Follows (thenClose task) t r) :
    ∃ t' r' outcome, ∃ notes : List Remark,
      t = t' ++ .exchange ⟨.closeSession, .close, outcome⟩ :: notes.map Step.remark ∧
        Follows task t' r' ∧ r = afterClosing r' outcome := by
  obtain ⟨t', _, r', rfl, hr, hc⟩ := (Interaction.follows_bind _ _ _ _).mp hf
  obtain ⟨outcome, _, rfl, hn⟩ := (Interaction.follows_call rfl).mp hc
  match outcome with
  | .ok () =>
    obtain ⟨rfl, rfl⟩ := hn
    exact ⟨t', _, _, [], rfl, hr, rfl⟩
  | .error .cancelled =>
    obtain ⟨rfl, rfl⟩ := hn
    exact ⟨t', _, _, [], rfl, hr, rfl⟩
  | .error (.invalidInput _) | .error (.advisory _) | .error (.fatal _ _)
  | .error (.transient _ _) | .error (.driver _) | .error (.value _) =>
    obtain ⟨_, rfl, rfl, rfl⟩ := hn
    exact ⟨t', _, _, [_], rfl, hr, rfl⟩

/-- A failure is handed to the report exactly if it is fatal. -/
theorem follows_onFatal {task : Task ν Unit} {report : Failure → String}
    {r : Except Failure Unit} (hf : Follows (onFatal task report) t r) :
    (∃ t' stage cause, ∃ notes : List Remark, t = t' ++ notes.map Step.remark ∧
        Follows task t' (.error (.fatal stage cause)) ∧ r = .ok ()) ∨
      (Follows task t r ∧ ∀ stage cause, r ≠ .error (.fatal stage cause)) := by
  obtain ⟨t', _, r', rfl, hr, hn⟩ := (Interaction.follows_bind _ _ _ _).mp hf
  match r' with
  | .error (.fatal stage cause) =>
    obtain ⟨_, rfl, rfl, rfl⟩ := hn
    exact Or.inl ⟨t', stage, cause, [_], rfl, hr, rfl⟩
  | .ok () | .error (.invalidInput _) | .error (.advisory _)
  | .error (.transient _ _) | .error (.driver _) | .error (.value _) | .error .cancelled =>
    obtain ⟨rfl, rfl⟩ := hn
    rw [List.append_nil]
    exact Or.inr ⟨hr, by simp⟩

def unlessFatal : c.Outcome → Except Failure Unit
  | .ok _ | .error (.driver _) | .error (.fatal _ _) => .ok ()
  | .error failure => .error failure

theorem follows_mandatory_unit {r : Except Failure Unit} (h : limit.isSpent = false)
    (hf : Follows (do let _ ← mandatory stage c limit : Task ν Unit) t r) :
    ∃ outcome : c.Outcome, t = [.exchange ⟨stage, c, outcome⟩] ∧
      r = (outcome.mapError (Failure.inMandatory stage limit)).map fun _ => () := by
  rcases follows_bind.mp hf with ⟨_, _, answer, rfl, h₁, rfl, rfl⟩ | ⟨failure, h₁, rfl⟩
  · obtain ⟨outcome, rfl, hr⟩ := (follows_mandatory h).mp h₁
    exact ⟨outcome, rfl, by rw [← hr]; rfl⟩
  · obtain ⟨outcome, rfl, hr⟩ := (follows_mandatory h).mp h₁
    exact ⟨outcome, rfl, by rw [← hr]; rfl⟩

theorem follows_onFatal_mandatory {report : Failure → String} {r : Except Failure Unit}
    (h : limit.isSpent = false)
    (hf : Follows (onFatal (do let _ ← mandatory stage c limit) report : Task ν Unit) t r) :
    ∃ (outcome : c.Outcome) (notes : List Remark),
      t = .exchange ⟨stage, c, outcome⟩ :: notes.map Step.remark ∧ r = unlessFatal outcome := by
  rcases follows_onFatal hf with ⟨t', _, _, notes, rfl, hr, rfl⟩ | ⟨hr, hfatal⟩
  · obtain ⟨outcome, rfl, hr⟩ := follows_mandatory_unit h hr
    refine ⟨outcome, notes, rfl, ?_⟩
    match outcome with
    | .error (.driver _) | .error (.fatal _ _) => rfl
  · obtain ⟨outcome, rfl, rfl⟩ := follows_mandatory_unit h hr
    refine ⟨outcome, [], rfl, ?_⟩
    match outcome with
    | .ok _ => rfl
    | .error (.driver _) | .error (.fatal _ _) => exact absurd rfl (hfatal _ _)
    | .error (.invalidInput _) | .error (.advisory _) | .error (.transient _ _)
    | .error (.value _) | .error .cancelled => rfl

theorem follows_reporting {task : Task ν α} {cancelled failed : String} {r : Except Failure α}
    (hf : Follows (reporting task cancelled failed) t r) :
    ∃ t', ∃ notes : List Remark, t = t' ++ notes.map Step.remark ∧ Follows task t' r := by
  obtain ⟨t', _, r', rfl, hr, hn⟩ := (Interaction.follows_bind _ _ _ _).mp hf
  match r' with
  | .ok _ | .error (.driver _) | .error (.value _) =>
    obtain ⟨rfl, rfl⟩ := hn
    exact ⟨t', [], rfl, hr⟩
  | .error .cancelled | .error (.invalidInput _) | .error (.advisory _)
  | .error (.fatal _ _) | .error (.transient _ _) =>
    obtain ⟨_, rfl, rfl, rfl⟩ := hn
    exact ⟨t', [_], rfl, hr⟩

/-- A session is not asked for, refused, or used and then closed. -/
theorem follows_inSession {connection : String} {task : Task ν α} {r : Except Failure α}
    (hf : Follows (inSession connection limit task) t r) :
    (limit.isSpent = true ∧ t = [] ∧
        r = .error (.fatal .openSession (some (.timedOut limit)))) ∨
      (limit.isSpent = false ∧ ∃ failure : Failure,
        t = [.exchange ⟨.openSession, .openSession connection, .error failure⟩] ∧
          r = .error (failure.inMandatory .openSession limit)) ∨
      (limit.isSpent = false ∧ ∃ rest,
        t = .exchange ⟨.openSession, .openSession connection, .ok ()⟩ :: rest ∧
          Follows (thenClose task) rest r) := by
  cases h : limit.isSpent with
  | true =>
    rcases follows_bind.mp hf with ⟨_, _, _, rfl, ho, _⟩ | ⟨failure, ho, rfl⟩
    · cases ((follows_mandatory_spent h).mp ho).2
    · obtain ⟨rfl, hr⟩ := (follows_mandatory_spent h).mp ho
      injection hr with hr
      exact Or.inl ⟨rfl, rfl, by rw [hr]⟩
  | false =>
    refine Or.inr ?_
    rcases follows_bind.mp hf with ⟨_, rest, _, rfl, ho, hn⟩ | ⟨failure, ho, rfl⟩
    · obtain ⟨outcome, rfl, hr⟩ := (follows_mandatory h).mp ho
      cases outcome with
      | ok _ => exact Or.inr ⟨rfl, rest, rfl, hn⟩
      | error failure => cases hr
    · obtain ⟨outcome, rfl, hr⟩ := (follows_mandatory h).mp ho
      cases outcome with
      | ok _ => cases hr
      | error failure =>
        injection hr with hr
        exact Or.inl ⟨rfl, failure, rfl, by rw [hr]⟩

end Task

end QueryTuning
