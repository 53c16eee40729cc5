import QueryTuning.Proofs.Session.Conduct

/-!
# Mandatory round trips

Some stages cannot be done without. If every answer is of the expected sort and
every failure is one of the driver, a task either gives its result, or the last
of its round trips is the first mandatory one that failed, and the failure of
the task is fatal and names its stage.
-/

set_option autoImplicit false

namespace QueryTuning

variable {σ ν α β : Type}

def Stage.isMandatory : Stage → Bool
  | openSession | actualPlan | execution | estimatedPlan | indexCatalog => true
  | _ => false

namespace Exchange

def rows? : Exchange → Option (List Row)
  | ⟨_, .fetchAll _ _, .ok rows⟩ => some rows
  | _ => none

def plan? : Exchange → Option (Plan.Mode × Option String)
  | ⟨_, .fetchPlan _ mode, .ok document⟩ => some (mode, document)
  | _ => none

def Breaks (e : Exchange) : Prop := e.stage.isMandatory = true ∧ e.failure? ≠ none

theorem not_breaks_of_optional {e : Exchange} (h : e.stage.isMandatory = false) : ¬ e.Breaks := by
  rintro ⟨hm, -⟩
  rw [h] at hm
  cases hm

theorem not_breaks_of_ok {stage : Stage} {c : Call} (answer : c.Answer) :
    ¬ (Exchange.mk stage c (.ok answer)).Breaks := fun h => h.2 rfl

end Exchange

/-- What is expected of the surroundings of a run: answers of one sort, clock readings of
another, no failures but those of the driver, and not more calls than a list can hold. -/
structure Trace.Regular (A : Exchange → Prop) (X : ν → Prop) (bound : Nat) (t : Trace ν) :
    Prop where
  answers : ∀ e ∈ t.exchanges, A e
  failures : ∀ e ∈ t.exchanges, ∀ failure, e.failure? = some failure →
    ∃ error, failure = .driver error
  readings : ∀ x ∈ t.readings, X x
  length : t.exchanges.length < bound

namespace Trace.Regular

variable {A : Exchange → Prop} {X : ν → Prop} {bound : Nat} {t u : Trace ν}

theorem sub (h : t.Regular A X bound) (he : List.Sublist u.exchanges t.exchanges)
    (hr : List.Sublist u.readings t.readings) : u.Regular A X bound := by
  constructor
  · exact fun e hm => h.answers e (he.subset hm)
  · exact fun e hm => h.failures e (he.subset hm)
  · exact fun x hx => h.readings x (hr.subset hx)
  · exact Nat.lt_of_le_of_lt he.length_le h.length

theorem left (h : Trace.Regular A X bound (t ++ u)) : t.Regular A X bound :=
  h.sub (by simp) (by simp)

theorem right (h : Trace.Regular A X bound (t ++ u)) : u.Regular A X bound :=
  h.sub (by simp) (by simp)

end Trace.Regular

def Trace.StoppedAtBreak (limit : TimeLimit) (t : Trace ν) (r : Except Failure α) : Prop :=
  ∃ before e error, t.exchanges = before ++ [e] ∧ (∀ e' ∈ before, ¬ e'.Breaks) ∧
    e.stage.isMandatory = true ∧ e.failure? = some (.driver error) ∧
    r = .error (.fatal e.stage (some (Failure.causeOf limit error)))

theorem Trace.StoppedAtBreak.after {limit : TimeLimit} {t u : Trace ν} {r : Except Failure α}
    (h : u.StoppedAtBreak limit r) (ht : ∀ e ∈ t.exchanges, ¬ e.Breaks) :
    Trace.StoppedAtBreak limit (t ++ u) r := by
  obtain ⟨before, e, error, hu, hbefore, hrest⟩ := h
  refine ⟨t.exchanges ++ before, e, error, ?_, ?_, hrest⟩
  · rw [exchanges_append, hu, List.append_assoc]
  · intro e' he'
    exact (List.mem_append.mp he').elim (ht e') (hbefore e')

namespace Task

/-- In regular surroundings the task gives a result with a property and no mandatory round
trip fails, or it stops at the first one that does. -/
def Steady (A : Exchange → Prop) (X : ν → Prop) (bound : Nat) (limit : TimeLimit)
    (Q : α → Prop) (task : Task ν α) : Prop :=
  ∀ (t : Trace ν) (r : Except Failure α), Follows task t r → t.Regular A X bound →
    (∃ a, r = .ok a ∧ Q a ∧ ∀ e ∈ t.exchanges, ¬ e.Breaks) ∨ t.StoppedAtBreak limit r

section

variable {A : Exchange → Prop} {X : ν → Prop} {bound : Nat} {limit : TimeLimit}
  {Q Q' : α → Prop} {R : β → Prop}

theorem steady_of_yields {task : Task ν α} {a : α} (h : Yields task (.ok a)) (ha : Q a) :
    Steady A X bound limit Q task := by
  intro t r hf _
  obtain ⟨ht, -, hr⟩ := h t r hf
  exact Or.inl ⟨a, hr, ha, by simp [ht]⟩

theorem steady_pure {a : α} (h : Q a) : Steady A X bound limit Q (pure a : Task ν α) :=
  steady_of_yields (yields_pure a) h

theorem steady_ofValue {conversion : Except ValueFault α} {a : α} (h : conversion = .ok a)
    (ha : Q a) : Steady A X bound limit Q (ofValue conversion : Task ν α) := by
  subst h
  exact steady_pure ha

theorem steady_ofInput {check : Except InputFault α} {a : α} (h : check = .ok a) (ha : Q a) :
    Steady A X bound limit Q (ofInput check : Task ν α) := by
  subst h
  exact steady_pure ha

theorem steady_readClock : Steady A X bound limit X (readClock : Task ν ν) := by
  intro t r hf ht
  obtain ⟨x, rfl, rfl⟩ := follows_readClock.mp hf
  exact Or.inl ⟨x, rfl, ht.readings x (by simp), by simp⟩

theorem steady_bind {task : Task ν α} {f : α → Task ν β} (ht : Steady A X bound limit Q task)
    (hf : ∀ a, Q a → Steady A X bound limit R (f a)) :
    Steady A X bound limit R (task >>= f) := by
  intro t r h hreg
  rcases follows_bind.mp h with ⟨t₁, t₂, a, rfl, h₁, h₂⟩ | ⟨failure, h₁, rfl⟩
  · rcases ht _ _ h₁ hreg.left with ⟨b, hb, hQ, hnone⟩ | ⟨_, _, _, _, _, _, _, hr⟩
    · cases hb
      rcases hf a hQ _ _ h₂ hreg.right with ⟨c, hc, hR, hrest⟩ | hstop
      · refine Or.inl ⟨c, hc, hR, ?_⟩
        intro e he
        rw [Trace.exchanges_append, List.mem_append] at he
        exact he.elim (hnone e) (hrest e)
      · exact Or.inr (hstop.after hnone)
    · cases hr
  · rcases ht _ _ h₁ hreg with ⟨_, hr, -⟩ | ⟨before, e, error, hx, hbefore, hm, hd, hr⟩
    · cases hr
    · cases hr
      exact Or.inr ⟨before, e, error, hx, hbefore, hm, hd, rfl⟩

theorem steady_mono {task : Task ν α} (h : Steady A X bound limit Q task) (hQ : ∀ a, Q a → Q' a) :
    Steady A X bound limit Q' task := by
  intro t r hf ht
  rcases h t r hf ht with ⟨a, hr, ha, hnone⟩ | hstop
  · exact Or.inl ⟨a, hr, hQ a ha, hnone⟩
  · exact Or.inr hstop

variable {stage : Stage} {c : Call}

theorem steady_mandatory (hl : limit.isSpent = false) (hs : stage.isMandatory = true) :
    Steady A X bound limit (fun answer => A ⟨stage, c, .ok answer⟩)
      (mandatory stage c limit : Task ν c.Answer) := by
  intro t r hf ht
  obtain ⟨outcome, rfl, rfl⟩ := (follows_mandatory hl).mp hf
  have ha := ht.answers _ List.mem_cons_self
  have hd := ht.failures _ List.mem_cons_self
  cases outcome with
  | ok answer =>
    refine Or.inl ⟨answer, rfl, ha, ?_⟩
    intro e he
    rw [List.mem_singleton.mp he]
    exact Exchange.not_breaks_of_ok answer
  | error failure =>
    obtain ⟨error, rfl⟩ := hd failure rfl
    exact Or.inr ⟨[], _, error, rfl, by simp, hs, rfl, rfl⟩

theorem unbroken_single (outcome : c.Outcome) (notes : List Remark)
    (hs : stage.isMandatory = false) :
    ∀ e ∈ Trace.exchanges (.exchange ⟨stage, c, outcome⟩ :: notes.map Step.remark : Trace ν),
      ¬ e.Breaks := by
  intro e he
  rw [Trace.exchanges_exchange, Trace.exchanges_remarks, List.mem_singleton] at he
  rw [he]
  exact Exchange.not_breaks_of_optional hs

/-- A round trip that the task can do without never breaks it. -/
theorem steady_bestEffort (hl : limit.isSpent = false) (hs : stage.isMandatory = false) :
    Steady A X bound limit (fun found => ∀ answer ∈ found, A ⟨stage, c, .ok answer⟩)
      (bestEffort stage c limit : Task ν (Option c.Answer)) := by
  intro t r hf ht
  obtain ⟨outcome, notes, rfl, rfl⟩ := follows_bestEffort hl hf
  have ha := ht.answers _ List.mem_cons_self
  have hd := ht.failures _ List.mem_cons_self
  cases outcome with
  | ok answer => exact Or.inl ⟨some answer, rfl, by simpa using ha, unbroken_single _ notes hs⟩
  | error failure =>
    obtain ⟨error, rfl⟩ := hd failure rfl
    exact Or.inl ⟨none, rfl, by simp, unbroken_single _ notes hs⟩

/-- A mandatory round trip under a report breaks nothing if its stage can be done without. -/
theorem steady_onFatal {report : Failure → String} (hl : limit.isSpent = false)
    (hs : stage.isMandatory = false) :
    Steady A X bound limit (fun _ => True)
      (onFatal (do let _ ← mandatory stage c limit) report : Task ν Unit) := by
  intro t r hf ht
  obtain ⟨outcome, notes, rfl, rfl⟩ := follows_onFatal_mandatory hl hf
  have hd := ht.failures _ List.mem_cons_self
  cases outcome with
  | ok answer => exact Or.inl ⟨(), rfl, trivial, unbroken_single _ notes hs⟩
  | error failure =>
    obtain ⟨error, rfl⟩ := hd failure rfl
    exact Or.inl ⟨(), rfl, trivial, unbroken_single _ notes hs⟩

end

end Task

/-- How a run in a session ends with its mandatory round trips. It fails exactly if one of
them failed; the failure is fatal and names the stage of that round trip, which was the last
one before the session was closed, or the opening itself. -/
structure Trace.FailsWithBreak (limit : TimeLimit) (t : Trace ν) (r : Except Failure α) :
    Prop where
  raises_iff : (∃ failure, r = .error failure) ↔ ∃ e ∈ t.exchanges, e.Breaks
  fatal : ∀ e ∈ t.exchanges, e.Breaks → ∃ error, e.failure? = some (.driver error) ∧
    r = .error (.fatal e.stage (some (Failure.causeOf limit error)))
  last : ∀ e ∈ t.exchanges, e.Breaks →
    (t.exchanges = [e] ∧ e.stage = .openSession) ∨
      ∃ before closing, t.exchanges = before ++ [e, closing] ∧ closing.call = .close

namespace Trace.FailsWithBreak

variable {limit : TimeLimit} {t : Trace ν}

theorem of_unbroken {r : Except Failure α} {a : α} (hr : r = .ok a)
    (h : ∀ e ∈ t.exchanges, ¬ e.Breaks) : t.FailsWithBreak limit r := by
  subst hr
  constructor
  · constructor
    · rintro ⟨_, hf⟩
      cases hf
    · rintro ⟨e, he, hb⟩
      exact absurd hb (h e he)
  · exact fun e he hb => absurd hb (h e he)
  · exact fun e he hb => absurd hb (h e he)

/-- One round trip breaks the run, and at most the closing comes after it. -/
theorem of_break {r : Except Failure α} {before after : List Exchange} {e : Exchange}
    {error : DriverError} (ht : t.exchanges = before ++ e :: after)
    (hbefore : ∀ e' ∈ before, ¬ e'.Breaks) (hafter : ∀ e' ∈ after, ¬ e'.Breaks)
    (hm : e.stage.isMandatory = true) (he : e.failure? = some (.driver error))
    (hr : r = .error (.fatal e.stage (some (Failure.causeOf limit error))))
    (hlast : (t.exchanges = [e] ∧ e.stage = .openSession) ∨
      ∃ before closing, t.exchanges = before ++ [e, closing] ∧ closing.call = .close) :
    t.FailsWithBreak limit r := by
  have hbreaks : e.Breaks := ⟨hm, by rw [he]; simp⟩
  have hmem : e ∈ t.exchanges := by simp [ht]
  have only : ∀ e' ∈ t.exchanges, e'.Breaks → e' = e := by
    intro e' he' hb
    rw [ht, List.mem_append, List.mem_cons] at he'
    rcases he' with he' | rfl | he'
    · exact absurd hb (hbefore e' he')
    · rfl
    · exact absurd hb (hafter e' he')
  constructor
  · exact ⟨fun _ => ⟨e, hmem, hbreaks⟩, fun _ => ⟨_, hr⟩⟩
  · intro e' he' hb
    rw [only e' he' hb]
    exact ⟨error, he, hr⟩
  · intro e' he' hb
    rw [only e' he' hb]
    exact hlast

theorem congr {u : Trace ν} {r : Except Failure α} (h : u.FailsWithBreak limit r)
    (ht : t.exchanges = u.exchanges) : t.FailsWithBreak limit r := by
  constructor
  · rw [ht]
    exact h.raises_iff
  · rw [ht]
    exact h.fatal
  · rw [ht]
    exact h.last

end Trace.FailsWithBreak

namespace Task

variable {A : Exchange → Prop} {X : ν → Prop} {bound : Nat} {limit : TimeLimit} {Q : α → Prop}

theorem failsWithBreak_of_unopened {connection : String} {error : DriverError} :
    Trace.FailsWithBreak limit
      ([.exchange ⟨.openSession, .openSession connection, .error (.driver error)⟩] : Trace ν)
      (.error (.fatal .openSession (some (Failure.causeOf limit error))) : Except Failure α) := by
  have hx : Trace.exchanges (ν := ν) [.exchange ⟨.openSession, .openSession connection,
      .error (.driver error)⟩] = [] ++ Exchange.mk .openSession (.openSession connection)
        (.error (.driver error)) :: [] := rfl
  exact .of_break hx (by simp) (by simp) rfl rfl rfl (Or.inl ⟨rfl, rfl⟩)

theorem failsWithBreak_of_closed {connection : String} {task : Task ν α} {t : Trace ν}
    {r : Except Failure α} {outcome : Call.close.Outcome} {notes : List Remark}
    (h : Steady A X bound limit Q task) (hf : Follows task t r) (ht : t.Regular A X bound) :
    Trace.FailsWithBreak limit (.exchange ⟨.openSession, .openSession connection, .ok ()⟩ ::
      (t ++ .exchange ⟨.closeSession, .close, outcome⟩ :: notes.map Step.remark)) r := by
  have hx := Trace.exchanges_session ⟨.openSession, .openSession connection, .ok ()⟩
    ⟨.closeSession, .close, outcome⟩ t notes
  have hopen : ¬ (Exchange.mk .openSession (.openSession connection) (.ok ())).Breaks :=
    Exchange.not_breaks_of_ok (c := .openSession connection) ()
  have hclose : ¬ (Exchange.mk .closeSession .close outcome).Breaks :=
    Exchange.not_breaks_of_optional rfl
  rcases h _ _ hf ht with ⟨a, rfl, -, hnone⟩ | ⟨before, e, error, he, hbefore, hm, hd, rfl⟩
  · apply Trace.FailsWithBreak.of_unbroken rfl
    rw [hx]
    simp only [List.mem_cons, List.mem_append, List.not_mem_nil, or_false]
    rintro e' (rfl | he' | rfl)
    · exact hopen
    · exact hnone e' he'
    · exact hclose
  · have hbreak : Trace.exchanges (.exchange ⟨.openSession, .openSession connection, .ok ()⟩ ::
        (t ++ .exchange ⟨.closeSession, .close, outcome⟩ :: notes.map Step.remark)) =
          (⟨.openSession, .openSession connection, .ok ()⟩ :: before) ++
            e :: [⟨.closeSession, .close, outcome⟩] := by
      rw [hx, he]
      simp
    apply Trace.FailsWithBreak.of_break hbreak _ _ hm hd rfl
    · exact Or.inr ⟨_, _, hbreak, rfl⟩
    · exact List.forall_mem_cons.mpr ⟨hopen, hbefore⟩
    · simpa using hclose

theorem failsWithBreak_inSession {connection : String} {task : Task ν α} {t : Trace ν}
    {r : Except Failure α} (hl : limit.isSpent = false) (h : Steady A X bound limit Q task)
    (hf : Follows (inSession connection limit task) t r) (ht : t.Regular A X bound) :
    t.FailsWithBreak limit r := by
  rcases follows_inSession hf with ⟨hspent, -⟩ | ⟨-, failure, rfl, rfl⟩ | ⟨-, rest, rfl, hc⟩
  · rw [hl] at hspent
    cases hspent
  · obtain ⟨error, rfl⟩ := ht.failures _ List.mem_cons_self failure rfl
    exact failsWithBreak_of_unopened
  · obtain ⟨t', r', outcome, notes, rfl, hr, rfl⟩ := follows_thenClose hc
    have hne : outcome ≠ .error .cancelled := by
      rintro rfl
      obtain ⟨error, herror⟩ := ht.failures ⟨.closeSession, .close, .error .cancelled⟩
        (by simp) .cancelled rfl
      cases herror
    have hreg : t'.Regular A X bound := (Trace.Regular.right (t := [.exchange _]) ht).left
    rw [afterClosing_of_ne hne]
    exact failsWithBreak_of_closed h hr hreg

end Task

def Call.emptyAnswer : (c : Call) → c.Answer
  | openSession _ => ()
  | fetchAll _ _ => []
  | execute _ => ()
  | fetchPlan _ _ => none
  | close => ()

def Server.failingAt (failing : List Nat) (failure : Failure) : Server Nat where
  respond n c := (⟨some .zero, if n ∈ failing then .error failure else .ok c.emptyAnswer⟩, n + 1)

end QueryTuning
