import QueryTuning.Proofs.Analysis.OptionalReplies

/-!
# Warm-ups

Before a benchmark measures, it may ask for statistics in the session and warm up. Neither reads
the clock, and a warm-up that fails is only reported unless it is refused. So a benchmark without
warm-ups, in a session that answers the other round trips alike, comes to the same, unless a
warm-up is refused, which ends the benchmark.
-/

set_option autoImplicit false

namespace QueryTuning

variable {ν : Type}

namespace Measure

theorem follows_switchStatistics {p : Protocol} {t : Trace ν} {r : Except Failure Unit}
    (hf : Task.Follows (switchStatistics p) t r) :
    (∀ e ∈ t.exchanges, e.stage = .sessionStatistics) ∧ t.readings = [] := by
  have hstages : Task.Conducts (fun stage _ => stage = .sessionStatistics)
      (switchStatistics p : Task ν Unit) :=
    (composed_switchStatistics (F := fun _ => True) rfl p).conducts
  refine ⟨(hstages _ _ hf).calls, ?_⟩
  unfold switchStatistics at hf
  split at hf
  · cases hl : p.limit.isSpent with
    | true =>
      rcases Task.follows_bind.mp hf with ⟨_, _, _, rfl, h, rfl, -⟩ | ⟨_, h, -⟩
      · obtain ⟨notes, rfl, -⟩ := Task.follows_bestEffort_spent hl h
        simp
      · obtain ⟨notes, rfl, -⟩ := Task.follows_bestEffort_spent hl h
        simp
    | false =>
      rcases Task.follows_bind.mp hf with ⟨_, _, _, rfl, h, rfl, -⟩ | ⟨_, h, -⟩
      · obtain ⟨_, notes, rfl, -⟩ := Task.follows_bestEffort hl h
        simp
      · obtain ⟨_, notes, rfl, -⟩ := Task.follows_bestEffort hl h
        simp
  · obtain ⟨rfl, -⟩ := Task.follows_pure.mp hf
    rfl

structure WarmsUp (t : Trace ν) (r : Except Failure Unit) : Prop where
  stages : ∀ e ∈ t.exchanges, e.stage = .warmup
  readings : t.readings = []
  result : r = .ok () ∨ ∃ failure, t.RefusesWarmUp failure ∧ r = .error failure

theorem follows_warmUp {sql : String} {limit : TimeLimit} {t : Trace ν}
    {r : Except Failure Unit} (hf : Task.Follows (warmUp sql limit) t r) : WarmsUp t r := by
  cases hl : limit.isSpent with
  | true =>
    have hspent {t' : Trace ν} {r' : Except Failure Unit}
        (h : Task.Follows (do let _ ← Task.mandatory .warmup (.fetchAll sql []) limit) t' r') :
        t' = [] ∧ ∃ stage cause, r' = .error (.fatal stage cause) := by
      rcases Task.follows_bind.mp h with ⟨_, _, _, rfl, hcall, -⟩ | ⟨failure, hcall, rfl⟩
      · cases ((Task.follows_mandatory_spent hl).mp hcall).2
      · obtain ⟨rfl, hr⟩ := (Task.follows_mandatory_spent hl).mp hcall
        cases hr
        exact ⟨rfl, _, _, rfl⟩
    rcases Task.follows_onFatal hf with ⟨_, _, _, notes, rfl, h, rfl⟩ | ⟨h, hfatal⟩
    · obtain ⟨rfl, -⟩ := hspent h
      exact ⟨by simp, by simp, Or.inl rfl⟩
    · obtain ⟨-, stage, cause, rfl⟩ := hspent h
      exact absurd rfl (hfatal stage cause)
  | false =>
    obtain ⟨outcome, notes, rfl, rfl⟩ := Task.follows_onFatal_mandatory hl hf
    refine ⟨by simp, by simp, ?_⟩
    match outcome with
    | .ok _ | .error (.driver _) | .error (.fatal _ _) => exact Or.inl rfl
    | .error (.invalidInput _) | .error (.advisory _) | .error (.transient _ _)
    | .error (.value _) | .error .cancelled =>
      exact Or.inr ⟨_, ⟨_, List.mem_cons_self, rfl, rfl, rfl⟩, rfl⟩

theorem follows_warmUps {sql : String} {limit : TimeLimit} {n : Nat} {t : Trace ν}
    {r : Except Failure Unit} (hf : Task.Follows (warmUps sql limit n) t r) : WarmsUp t r := by
  induction n generalizing t with
  | zero =>
    obtain ⟨rfl, rfl⟩ := Task.follows_pure.mp hf
    exact ⟨by simp, rfl, Or.inl rfl⟩
  | succ n ih =>
    rcases Task.follows_bind.mp hf with ⟨t₁, t₂, _, rfl, h₁, h₂⟩ | ⟨failure, h, rfl⟩
    · have hfirst := follows_warmUp h₁
      have hrest := ih h₂
      constructor
      · intro e he
        rw [Trace.exchanges_append, List.mem_append] at he
        exact he.elim (hfirst.stages e) (hrest.stages e)
      · rw [Trace.readings_append, hfirst.readings, hrest.readings]
        rfl
      · refine hrest.result.imp_right fun ⟨failure, ⟨e, he, hdecides⟩, hr⟩ => ?_
        exact ⟨failure, ⟨e, by simp [he], hdecides⟩, hr⟩
    · exact follows_warmUp h

end Measure

namespace Trace

def unwarmed (t : Trace ν) : List Exchange := t.exchanges.filter fun e => e.stage ≠ .warmup

theorem unwarmed_append (t u : Trace ν) : unwarmed (t ++ u) = t.unwarmed ++ u.unwarmed := by
  rw [unwarmed, exchanges_append, List.filter_append]
  rfl

theorem unwarmed_eq {t : Trace ν} (h : ∀ e ∈ t.exchanges, e.stage ≠ .warmup) :
    t.unwarmed = t.exchanges :=
  List.filter_eq_self.mpr fun e he => decide_eq_true (h e he)

theorem unwarmed_eq_nil {t : Trace ν} (h : ∀ e ∈ t.exchanges, e.stage = .warmup) :
    t.unwarmed = [] :=
  List.filter_eq_nil_iff.mpr fun e he => by simp [h e he]

structure AlikeUnwarmed (t u : Trace ν) : Prop where
  exchanges : Alike Exchange.SameQuestion t.unwarmed u.exchanges
  readings : Alike (fun _ _ => True) t.readings u.readings

theorem AlikeUnwarmed.left {t₁ t₂ u₁ u₂ : Trace ν} (h : AlikeUnwarmed (t₁ ++ t₂) (u₁ ++ u₂)) :
    AlikeUnwarmed t₁ u₁ := by
  have hexchanges := h.exchanges
  have hreadings := h.readings
  rw [unwarmed_append, exchanges_append] at hexchanges
  rw [readings_append, readings_append] at hreadings
  exact ⟨hexchanges.left, hreadings.left⟩

theorem AlikeUnwarmed.right {t₁ t₂ u₁ u₂ : Trace ν} (h : AlikeUnwarmed (t₁ ++ t₂) (u₁ ++ u₂))
    (hx : t₁.unwarmed = u₁.exchanges) (hr : t₁.readings = u₁.readings) :
    AlikeUnwarmed t₂ u₂ := by
  have hexchanges := h.exchanges
  have hreadings := h.readings
  rw [unwarmed_append, exchanges_append, hx] at hexchanges
  rw [readings_append, readings_append, hr] at hreadings
  exact ⟨hexchanges.right fun _ => ⟨rfl, rfl⟩, hreadings.right fun _ => trivial⟩

end Trace

namespace Task

variable {α β : Type}

/-- Two runs of a task without warm-ups are one if they are alike. -/
theorem follows_alike {task : Task ν α} {t u : Trace ν} {r r' : Except Failure α}
    (hstages : Conducts (fun stage _ => stage ≠ .warmup) task) (ht : Follows task t r)
    (hu : Follows task u r') (h : t.AlikeUnwarmed u) : t = u ∧ r = r' := by
  have hexchanges := h.exchanges
  rw [Trace.unwarmed_eq (hstages _ _ ht).calls] at hexchanges
  exact Interaction.follows_alike ht hu hexchanges h.readings

/-- Alike runs of two tasks with a common beginning end there, or go on alike. -/
theorem follows_bind_alike {task : Task ν α} {f g : α → Task ν β} {t u : Trace ν}
    {r r' : Except Failure β} (hstages : Conducts (fun stage _ => stage ≠ .warmup) task)
    (ht : Follows (task >>= f) t r) (hu : Follows (task >>= g) u r') (h : t.AlikeUnwarmed u) :
    (t = u ∧ r = r' ∧ ∃ failure, Follows task t (.error failure)) ∨
      ∃ t₁ t₂ u₂ a, t = t₁ ++ t₂ ∧ u = t₁ ++ u₂ ∧ Follows task t₁ (.ok a) ∧
        Follows (f a) t₂ r ∧ Follows (g a) u₂ r' ∧ t₂.AlikeUnwarmed u₂ := by
  rcases follows_bind.mp ht with ⟨t₁, t₂, a, rfl, h₁, h₂⟩ | ⟨failure, h₁, rfl⟩
  · rcases follows_bind.mp hu with ⟨u₁, u₂, b, rfl, k₁, k₂⟩ | ⟨failure, k₁, rfl⟩
    · obtain ⟨rfl, hab⟩ := follows_alike hstages h₁ k₁ h.left
      cases hab
      have hrest := h.right (Trace.unwarmed_eq (hstages _ _ h₁).calls) rfl
      exact Or.inr ⟨t₁, t₂, u₂, a, rfl, rfl, h₁, h₂, k₂, hrest⟩
    · rw [← List.append_nil u] at h
      cases (follows_alike hstages h₁ k₁ h.left).2
  · rcases follows_bind.mp hu with ⟨u₁, u₂, b, rfl, k₁, k₂⟩ | ⟨failure', k₁, rfl⟩
    · rw [← List.append_nil t] at h
      cases (follows_alike hstages h₁ k₁ h.left).2
    · obtain ⟨rfl, hfailure⟩ := follows_alike hstages h₁ k₁ h
      cases hfailure
      exact Or.inl ⟨rfl, rfl, failure, h₁⟩

end Task

namespace Measure

def Protocol.unwarmed (p : Protocol) : Protocol := { p with warmup := 0 }

theorem Protocol.check_unwarmed {p : Protocol} (h : 0 ≤ p.warmup) (query : String) :
    p.unwarmed.check query = p.check query := by
  unfold check unwarmed
  dsimp only
  rw [if_neg (show ¬ (0 : Int) < 0 by omega), if_neg (show ¬ p.warmup < 0 by omega)]

theorem conducts_switchStatistics_unwarmed (p : Protocol) :
    Task.Conducts (fun stage _ => stage ≠ .warmup) (switchStatistics p : Task ν Unit) :=
  (composed_switchStatistics (F := fun _ => True) (by decide) p).conducts

variable [Quantity ν]

theorem conducts_measured_unwarmed {query : String} {p : Protocol}
    (h : p.check query = .ok ()) :
    Task.Conducts (fun stage _ => stage ≠ .warmup)
      (measurements (Query.substitutePlaceholders query) p.collectStatistics p.limit
        p.iterations.toNat >>= averageOf : Task ν (Metrics ν)) :=
  (composed_averaged (F := fun _ => True) ⟨by decide, by decide, by decide⟩ _ _
    (Protocol.iterations_of_check h)).conducts

/-- A warm-up is refused, or the benchmark comes to the same as one without warm-ups. -/
theorem follows_unwarmed {query : String} {p : Protocol} {t u : Trace ν}
    {r r' : Except Failure (Metrics ν)} (hp : 0 ≤ p.warmup)
    (ht : Task.Follows (benchmark query p) t r)
    (hu : Task.Follows (benchmark query p.unwarmed) u r') (h : t.AlikeUnwarmed u) :
    (∃ failure, t.RefusesWarmUp failure ∧ r = .error failure) ∨
      t.unwarmed = u.exchanges ∧ t.readings = u.readings ∧ r = r' := by
  rw [benchmark_eq] at ht hu
  rw [Protocol.check_unwarmed hp] at hu
  cases hcheck : p.check query with
  | error fault =>
    rw [hcheck] at ht hu
    have hstop : Task.Yields (Task.ofInput (.error fault) : Task ν Unit)
        (.error (.invalidInput fault)) := Task.yields_ofInput _
    obtain ⟨htx, htr, rfl⟩ := Task.yields_stopped hstop _ _ _ ht
    obtain ⟨hux, hur, rfl⟩ := Task.yields_stopped hstop _ _ _ hu
    refine Or.inr ⟨?_, htr.trans hur.symm, rfl⟩
    rw [Trace.unwarmed, htx, hux, List.filter_nil]
  | ok _ =>
    have hswitch := conducts_switchStatistics_unwarmed (ν := ν) p
    have hmeasured := conducts_measured_unwarmed (ν := ν) hcheck
    rw [hcheck] at ht hu
    rcases Task.follows_bind_alike hswitch ht hu h with
      ⟨rfl, rfl, failure, hfailed⟩ | ⟨t₁, t₂, u₂, _, rfl, rfl, h₁, h₂, k₂, hrest⟩
    · exact Or.inr ⟨Trace.unwarmed_eq (hswitch _ _ hfailed).calls, rfl, rfl⟩
    have hbefore := Trace.unwarmed_eq (hswitch _ _ h₁).calls
    rcases Task.follows_bind.mp h₂ with ⟨t₃, t₄, _, rfl, h₃, h₄⟩ | ⟨failure, h₃, rfl⟩
    · have hwarmed := follows_warmUps h₃
      have hnone := Trace.unwarmed_eq_nil hwarmed.stages
      have hempty : Trace.AlikeUnwarmed (t₃ ++ t₄) ([] ++ u₂) := hrest
      obtain ⟨rfl, rfl⟩ :=
        Task.follows_alike hmeasured h₄ k₂ (hempty.right hnone hwarmed.readings)
      refine Or.inr ⟨?_, ?_, rfl⟩
      · rw [Trace.unwarmed_append, Trace.unwarmed_append, hbefore, hnone,
          Trace.unwarmed_eq (hmeasured _ _ h₄).calls, List.nil_append, Trace.exchanges_append]
      · rw [Trace.readings_append, Trace.readings_append, Trace.readings_append, hwarmed.readings,
          List.nil_append]
    · rcases (follows_warmUps h₃).result with hok | ⟨failure', ⟨e, he, hrefuses⟩, hr⟩
      · cases hok
      · cases hr
        exact Or.inl ⟨failure, ⟨e, by simp [he], hrefuses⟩, rfl⟩

end Measure

end QueryTuning
