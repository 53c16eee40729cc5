import QueryTuning.Proofs.Session.Mandatory

/-!
# Agreement of two runs

Two runs of a task get the same answers as long as they make the same mandatory
calls, and read the same clock. Whatever their other calls return, they make
the same mandatory calls to the end, and their results agree. The claim is kept
by every building block of a task, so it is proved block by block.
-/

set_option autoImplicit false

namespace QueryTuning

variable {ν α β : Type}

/-- Two sequences of questions with their answers. They answer alike as long as they ask the
same. -/
def Alike {γ : Type} (same : γ → γ → Prop) : List γ → List γ → Prop
  | x :: xs, y :: ys => same x y → x = y ∧ Alike same xs ys
  | _, _ => True

namespace Alike

variable {γ : Type} {same : γ → γ → Prop}

theorem left {xs ys us vs : List γ} (h : Alike same (xs ++ us) (ys ++ vs)) :
    Alike same xs ys := by
  induction xs generalizing ys with
  | nil => trivial
  | cons x xs ih =>
    cases ys with
    | nil => trivial
    | cons y ys =>
      intro hsame
      obtain ⟨hxy, hrest⟩ := h hsame
      exact ⟨hxy, ih hrest⟩

theorem right {xs us vs : List γ} (hrefl : ∀ x, same x x)
    (h : Alike same (xs ++ us) (xs ++ vs)) : Alike same us vs := by
  induction xs with
  | nil => exact h
  | cons x xs ih => exact ih (h (hrefl x)).2

theorem refl (xs : List γ) : Alike same xs xs := by
  induction xs with
  | nil => trivial
  | cons x xs ih => exact fun _ => ⟨rfl, ih⟩

end Alike

def Exchange.SameQuestion (e f : Exchange) : Prop := e.stage = f.stage ∧ e.call = f.call

namespace Trace

def mandatory (t : Trace ν) : List Exchange := t.exchanges.filter fun e => e.stage.isMandatory

@[simp] theorem mandatory_append (t u : Trace ν) :
    mandatory (t ++ u) = t.mandatory ++ u.mandatory := by
  simp [mandatory]

@[simp] theorem mandatory_remarks (notes : List Remark) :
    mandatory (notes.map Step.remark : Trace ν) = [] := by
  simp [mandatory]

theorem mandatory_of_silent {t : Trace ν} (h : t.exchanges = []) : t.mandatory = [] := by
  rw [mandatory, h, List.filter_nil]

theorem mandatory_exchange {e : Exchange} (t : Trace ν) (h : e.stage.isMandatory = true) :
    mandatory (.exchange e :: t) = e :: t.mandatory := by
  exact List.filter_cons_of_pos h

theorem mandatory_exchange_optional {e : Exchange} (t : Trace ν)
    (h : e.stage.isMandatory = false) : mandatory (.exchange e :: t) = t.mandatory := by
  exact List.filter_cons_of_neg (by simp [h])

structure Comparable (t u : Trace ν) : Prop where
  mandatory : Alike Exchange.SameQuestion t.mandatory u.mandatory
  readings : Alike (fun _ _ => True) t.readings u.readings

theorem Comparable.left {t₁ t₂ u₁ u₂ : Trace ν} (h : Comparable (t₁ ++ t₂) (u₁ ++ u₂)) :
    Comparable t₁ u₁ := by
  have hm := h.mandatory
  have hr := h.readings
  rw [mandatory_append, mandatory_append] at hm
  rw [readings_append, readings_append] at hr
  exact ⟨hm.left, hr.left⟩

theorem Comparable.right {t₁ t₂ u₁ u₂ : Trace ν} (h : Comparable (t₁ ++ t₂) (u₁ ++ u₂))
    (hm : t₁.mandatory = u₁.mandatory) (hr : t₁.readings = u₁.readings) :
    Comparable t₂ u₂ := by
  have hmandatory := h.mandatory
  have hreadings := h.readings
  rw [mandatory_append, mandatory_append, hm] at hmandatory
  rw [readings_append, readings_append, hr] at hreadings
  exact ⟨hmandatory.right fun _ => ⟨rfl, rfl⟩, hreadings.right fun _ => trivial⟩

structure Tame (A : Exchange → Prop) (bound : Nat) (t : Trace ν) : Prop where
  optional : ∀ e ∈ t.exchanges, e.stage.isMandatory = false → A e
  length : t.exchanges.length < bound

theorem Tame.sub {A : Exchange → Prop} {bound : Nat} {t u : Trace ν} (h : t.Tame A bound)
    (he : List.Sublist u.exchanges t.exchanges) : u.Tame A bound := by
  constructor
  · exact fun e hm => h.optional e (he.subset hm)
  · exact Nat.lt_of_le_of_lt he.length_le h.length

theorem Tame.left {A : Exchange → Prop} {bound : Nat} {t u : Trace ν}
    (h : Tame A bound (t ++ u)) : Tame A bound t := h.sub (by simp)

theorem Tame.right {A : Exchange → Prop} {bound : Nat} {t u : Trace ν}
    (h : Tame A bound (t ++ u)) : Tame A bound u := h.sub (by simp)

end Trace

inductive SameResult (R : α → β → Prop) : Except Failure α → Except Failure β → Prop
  | ok {a : α} {b : β} (h : R a b) : SameResult R (.ok a) (.ok b)
  | error (failure : Failure) : SameResult R (.error failure) (.error failure)

namespace SameResult

variable {R S : α → β → Prop} {r : Except Failure α} {r' : Except Failure β}

theorem mono (h : ∀ a b, R a b → S a b) (hr : SameResult R r r') : SameResult S r r' := by
  cases hr with
  | ok hab => exact .ok (h _ _ hab)
  | error failure => exact .error failure

theorem isOk_eq (h : SameResult R r r') : r.isOk = r'.isOk := by
  cases h <;> rfl

theorem refl (r : Except Failure α) : SameResult Eq r r := by
  cases r with
  | ok a => exact .ok rfl
  | error failure => exact .error failure

end SameResult

namespace Task

def Agree (A : Exchange → Prop) (bound : Nat) (R : α → β → Prop) (p : Task ν α)
    (q : Task ν β) : Prop :=
  ∀ (t u : Trace ν) (r : Except Failure α) (r' : Except Failure β), Follows p t r →
    Follows q u r' → t.Tame A bound → u.Tame A bound → t.Comparable u →
    t.mandatory = u.mandatory ∧ t.readings = u.readings ∧ SameResult R r r'

section

variable {A : Exchange → Prop} {bound : Nat} {α' β' : Type} {R : α → α' → Prop}
  {S : β → β' → Prop} {limit : TimeLimit} {stage : Stage} {c : Call}

theorem agree_of_yields {p : Task ν α} {q : Task ν α'} {r : Except Failure α}
    {r' : Except Failure α'} (hp : Yields p r) (hq : Yields q r') (h : SameResult R r r') :
    Agree A bound R p q := by
  intro t u x y hx hy _ _ _
  obtain ⟨ht, htr, rfl⟩ := hp t x hx
  obtain ⟨hu, hur, rfl⟩ := hq u y hy
  rw [Trace.mandatory_of_silent ht, Trace.mandatory_of_silent hu, htr, hur]
  exact ⟨rfl, rfl, h⟩

theorem agree_pure {a : α} {b : α'} (h : R a b) :
    Agree A bound R (pure a : Task ν α) (pure b) :=
  agree_of_yields (yields_pure a) (yields_pure b) (.ok h)

theorem agree_ofValue {conversion : Except ValueFault α} {conversion' : Except ValueFault α'}
    (h : SameResult R (conversion.mapError .value) (conversion'.mapError .value)) :
    Agree A bound R (ofValue conversion : Task ν α) (ofValue conversion') :=
  agree_of_yields (yields_ofValue conversion) (yields_ofValue conversion') h

theorem agree_ofInput (check : Except InputFault α) :
    Agree A bound Eq (ofInput check : Task ν α) (ofInput check) :=
  agree_of_yields (yields_ofInput check) (yields_ofInput check) (.refl _)

theorem agree_readClock : Agree A bound Eq (readClock : Task ν ν) readClock := by
  intro t u r r' ht hu _ _ hc
  obtain ⟨x, rfl, rfl⟩ := follows_readClock.mp ht
  obtain ⟨y, rfl, rfl⟩ := follows_readClock.mp hu
  obtain ⟨rfl, -⟩ := hc.readings trivial
  exact ⟨rfl, rfl, .refl _⟩

theorem agree_mandatory (hl : limit.isSpent = false) (hs : stage.isMandatory = true) :
    Agree A bound Eq (mandatory stage c limit : Task ν c.Answer) (mandatory stage c limit) := by
  intro t u r r' ht hu _ _ hc
  obtain ⟨outcome, rfl, rfl⟩ := (follows_mandatory hl).mp ht
  obtain ⟨outcome', rfl, rfl⟩ := (follows_mandatory hl).mp hu
  have halike := hc.mandatory
  rw [Trace.mandatory_exchange _ hs, Trace.mandatory_exchange _ hs] at halike
  obtain ⟨heq, -⟩ := halike ⟨rfl, rfl⟩
  cases heq
  exact ⟨rfl, rfl, .refl _⟩

/-- What an optional round trip returns is all that is known of it. -/
theorem agree_bestEffort (hA : ∀ e, A e → e.failure? ≠ some .cancelled)
    (hl : limit.isSpent = false) (hs : stage.isMandatory = false) :
    Agree A bound
      (fun found found' => (∀ answer ∈ found, A ⟨stage, c, .ok answer⟩) ∧
        ∀ answer ∈ found', A ⟨stage, c, .ok answer⟩)
      (bestEffort stage c limit : Task ν (Option c.Answer)) (bestEffort stage c limit) := by
  intro t u r r' ht hu htame hutame _
  obtain ⟨outcome, notes, rfl, rfl⟩ := follows_bestEffort hl ht
  obtain ⟨outcome', notes', rfl, rfl⟩ := follows_bestEffort hl hu
  have found {outcome : c.Outcome} (h : A ⟨stage, c, outcome⟩) :
      ∃ answer, optionally outcome = .ok answer ∧ ∀ a ∈ answer, A ⟨stage, c, .ok a⟩ := by
    match outcome with
    | .ok answer => exact ⟨some answer, rfl, by simpa using h⟩
    | .error .cancelled => exact absurd rfl (hA _ h)
    | .error (.invalidInput _) | .error (.advisory _) | .error (.fatal _ _)
    | .error (.transient _ _) | .error (.driver _) | .error (.value _) =>
      exact ⟨none, rfl, by simp⟩
  obtain ⟨answer, hr, h⟩ := found (htame.optional _ List.mem_cons_self hs)
  obtain ⟨answer', hr', h'⟩ := found (hutame.optional _ List.mem_cons_self hs)
  rw [hr, hr', Trace.mandatory_exchange_optional _ hs, Trace.mandatory_exchange_optional _ hs]
  exact ⟨by simp, by simp, .ok ⟨h, h'⟩⟩

/-- A round trip whose fatal failure is only reported, where no other failure is expected. -/
theorem agree_onFatal {report : Failure → String} (hl : limit.isSpent = false)
    (hs : stage.isMandatory = false)
    (hA : ∀ outcome : c.Outcome, A ⟨stage, c, outcome⟩ → unlessFatal outcome = .ok ()) :
    Agree A bound (fun _ _ => True)
      (onFatal (do let _ ← mandatory stage c limit) report : Task ν Unit)
      (onFatal (do let _ ← mandatory stage c limit) report) := by
  intro t u r r' ht hu htame hutame _
  obtain ⟨outcome, notes, rfl, rfl⟩ := follows_onFatal_mandatory hl ht
  obtain ⟨outcome', notes', rfl, rfl⟩ := follows_onFatal_mandatory hl hu
  rw [hA _ (htame.optional _ List.mem_cons_self hs), hA _ (hutame.optional _ List.mem_cons_self hs),
    Trace.mandatory_exchange_optional _ hs, Trace.mandatory_exchange_optional _ hs]
  exact ⟨by simp, by simp, .ok trivial⟩

theorem agree_mono {R' : α → α' → Prop} {p : Task ν α} {q : Task ν α'} (h : Agree A bound R p q)
    (hR : ∀ a b, R a b → R' a b) : Agree A bound R' p q := by
  intro t u r r' ht hu htame hutame hc
  obtain ⟨hm, hr, hsame⟩ := h t u r r' ht hu htame hutame hc
  exact ⟨hm, hr, hsame.mono hR⟩

theorem agree_bind {p : Task ν α} {q : Task ν α'} {f : α → Task ν β} {g : α' → Task ν β'}
    (hpq : Agree A bound R p q) (hfg : ∀ a b, R a b → Agree A bound S (f a) (g b)) :
    Agree A bound S (p >>= f) (q >>= g) := by
  intro t u r r' ht hu htame hutame hc
  rcases follows_bind.mp ht with ⟨t₁, t₂, a, rfl, h₁, h₂⟩ | ⟨failure, h₁, rfl⟩
  · rcases follows_bind.mp hu with ⟨u₁, u₂, b, rfl, k₁, k₂⟩ | ⟨failure, k₁, rfl⟩
    · obtain ⟨hm, hr, ⟨hab⟩⟩ := hpq _ _ _ _ h₁ k₁ htame.left hutame.left hc.left
      obtain ⟨hm', hr', hsame⟩ :=
        hfg a b hab _ _ _ _ h₂ k₂ htame.right hutame.right (hc.right hm hr)
      rw [Trace.mandatory_append, Trace.mandatory_append, Trace.readings_append,
        Trace.readings_append, hm, hr, hm', hr']
      exact ⟨rfl, rfl, hsame⟩
    · rw [← List.append_nil u] at hc
      obtain ⟨-, -, hsame⟩ := hpq _ _ _ _ h₁ k₁ htame.left hutame hc.left
      cases hsame
  · rcases follows_bind.mp hu with ⟨u₁, u₂, b, rfl, k₁, k₂⟩ | ⟨failure', k₁, rfl⟩
    · rw [← List.append_nil t] at hc
      obtain ⟨-, -, hsame⟩ := hpq _ _ _ _ h₁ k₁ htame hutame.left hc.left
      cases hsame
    · obtain ⟨hm, hr, ⟨⟩⟩ := hpq _ _ _ _ h₁ k₁ htame hutame hc
      exact ⟨hm, hr, .error _⟩

/-- Before anything else happens a check refuses in both runs or in none. -/
theorem agree_ofInput_bind {γ : Type} {check : Except InputFault γ} {f : γ → Task ν β}
    {g : γ → Task ν β'} (h : ∀ a, check = .ok a → Agree A bound S (f a) (g a)) :
    Agree A bound S (ofInput check >>= f) (ofInput check >>= g) := by
  cases check with
  | ok a => exact h a rfl
  | error fault =>
    have hstop : Yields (ofInput (.error fault) : Task ν γ) (.error (.invalidInput fault)) :=
      yields_ofInput _
    exact agree_of_yields (yields_stopped hstop f) (yields_stopped hstop g) (.error _)

theorem agree_ofValue_bind {γ : Type} {conversion : Except ValueFault γ} {f : γ → Task ν β}
    {g : γ → Task ν β'} (h : ∀ a, conversion = .ok a → Agree A bound S (f a) (g a)) :
    Agree A bound S (ofValue conversion >>= f) (ofValue conversion >>= g) := by
  cases conversion with
  | ok a => exact h a rfl
  | error fault =>
    have hstop : Yields (ofValue (.error fault) : Task ν γ) (.error (.value fault)) :=
      yields_ofValue _
    exact agree_of_yields (yields_stopped hstop f) (yields_stopped hstop g) (.error _)

theorem agree_thenClose {p : Task ν α} {q : Task ν α'}
    (hA : ∀ e, A e → e.failure? ≠ some .cancelled) (h : Agree A bound R p q) :
    Agree A bound R (thenClose p) (thenClose q) := by
  intro t u r r' ht hu htame hutame hc
  obtain ⟨t', r₁, outcome, notes, rfl, ht', rfl⟩ := follows_thenClose ht
  obtain ⟨u', r₂, outcome', notes', rfl, hu', rfl⟩ := follows_thenClose hu
  have spared {outcome : Call.close.Outcome} {γ : Type} (r : Except Failure γ)
      (ha : A ⟨.closeSession, .close, outcome⟩) : afterClosing r outcome = r :=
    afterClosing_of_ne (fun ho => hA _ ha (Exchange.failure_eq_some.mpr ho)) r
  have hclose := htame.right.optional _ List.mem_cons_self rfl
  have hclose' := hutame.right.optional _ List.mem_cons_self rfl
  obtain ⟨hm, hr, hsame⟩ := h _ _ _ _ ht' hu' htame.left hutame.left hc.left
  rw [spared r₁ hclose, spared r₂ hclose', Trace.mandatory_append, Trace.mandatory_append,
    Trace.mandatory_exchange_optional _ rfl, Trace.mandatory_exchange_optional _ rfl, hm,
    Trace.mandatory_remarks, Trace.mandatory_remarks]
  exact ⟨rfl, by simp [hr], hsame⟩

theorem agree_inSession {connection : String} {p : Task ν α} {q : Task ν α'}
    (hA : ∀ e, A e → e.failure? ≠ some .cancelled) (hl : limit.isSpent = false)
    (h : Agree A bound R p q) :
    Agree A bound R (inSession connection limit p) (inSession connection limit q) := by
  apply agree_bind (agree_mandatory hl rfl)
  exact fun _ _ _ => agree_thenClose hA h

theorem agree_reporting {p : Task ν α} {q : Task ν α'} {cancelled failed : String}
    (h : Agree A bound R p q) :
    Agree A bound R (reporting p cancelled failed) (reporting q cancelled failed) := by
  intro t u r r' ht hu htame hutame hc
  obtain ⟨t', notes, rfl, ht'⟩ := follows_reporting ht
  obtain ⟨u', notes', rfl, hu'⟩ := follows_reporting hu
  obtain ⟨hm, hr, hsame⟩ := h _ _ _ _ ht' hu' htame.left hutame.left hc.left
  exact ⟨by simp [hm], by simp [hr], hsame⟩

end

end Task

/-- Answers that are alike lead an interaction along one trace to one result. -/
theorem Interaction.follows_alike {p : Interaction ν α} {t u : Trace ν} {a b : α}
    (ht : p.Follows t a) (hu : p.Follows u b)
    (hexchanges : Alike Exchange.SameQuestion t.exchanges u.exchanges)
    (hreadings : Alike (fun _ _ => True) t.readings u.readings) : t = u ∧ a = b := by
  induction p generalizing t u with
  | done c =>
    obtain ⟨rfl, rfl⟩ := ht
    obtain ⟨rfl, rfl⟩ := hu
    exact ⟨rfl, rfl⟩
  | call stage c limit next ih =>
    cases hl : limit.isSpent with
    | true => exact ih _ ((follows_spent hl).mp ht) ((follows_spent hl).mp hu) hexchanges hreadings
    | false =>
      obtain ⟨outcome, rest, rfl, hrest⟩ := (follows_call hl).mp ht
      obtain ⟨outcome', rest', rfl, hrest'⟩ := (follows_call hl).mp hu
      obtain ⟨hsame, hothers⟩ := hexchanges ⟨rfl, rfl⟩
      cases hsame
      obtain ⟨rfl, rfl⟩ := ih outcome hrest hrest' hothers hreadings
      exact ⟨rfl, rfl⟩
  | clock next ih =>
    obtain ⟨x, rest, rfl, hrest⟩ := ht
    obtain ⟨y, rest', rfl, hrest'⟩ := hu
    obtain ⟨rfl, hothers⟩ := hreadings trivial
    obtain ⟨rfl, rfl⟩ := ih x hrest hrest' hexchanges hothers
    exact ⟨rfl, rfl⟩
  | remark r next ih =>
    obtain ⟨rest, rfl, hrest⟩ := ht
    obtain ⟨rest', rfl, hrest'⟩ := hu
    obtain ⟨rfl, rfl⟩ := ih hrest hrest' hexchanges hreadings
    exact ⟨rfl, rfl⟩

/-- The readings of one clock agree as far as both were taken. -/
theorem alike_readings {f g : Nat → ν} {a b : Nat} (h : ∀ k, f (a + k) = g (b + k)) (n m : Nat) :
    Alike (fun _ _ => True) ((List.range' a n).map f) ((List.range' b m).map g) := by
  induction n generalizing a b m with
  | zero => trivial
  | succ n ih =>
    cases m with
    | zero => trivial
    | succ m =>
      rw [List.range'_succ, List.range'_succ, List.map_cons, List.map_cons]
      intro _
      refine ⟨h 0, ih ?_ m⟩
      intro k
      rw [Nat.add_assoc, Nat.add_assoc]
      exact h (1 + k)

end QueryTuning
