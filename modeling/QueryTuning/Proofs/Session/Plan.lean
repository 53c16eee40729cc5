import QueryTuning.Proofs.Session.Conduct

/-!
# Planned calls

The calls of a task are planned if they can be told beforehand from the replies
to the catalog reads. A task that succeeds has made all of them, and one that
stops has made the first of them, none twice and none out of order.
-/

set_option autoImplicit false

namespace QueryTuning

variable {ν α β : Type}

namespace Exchange

def catalogReply? : Exchange → Option (List Row)
  | ⟨.indexCatalog, .fetchAll _ _, .ok rows⟩ => some rows
  | _ => none

theorem catalogReply_eq_none (e : Exchange) (h : e.stage ≠ .indexCatalog) :
    e.catalogReply? = none := by
  unfold catalogReply?
  split
  · exact absurd rfl h
  · rfl

end Exchange

namespace Trace

def catalogReplies (t : Trace ν) : List (List Row) := t.exchanges.filterMap Exchange.catalogReply?

@[simp] theorem catalogReplies_append (t u : Trace ν) :
    catalogReplies (t ++ u) = t.catalogReplies ++ u.catalogReplies := by
  simp [catalogReplies]

@[simp] theorem catalogReplies_remarks (notes : List Remark) :
    catalogReplies (notes.map Step.remark : Trace ν) = [] := by
  simp [catalogReplies]

theorem catalogReplies_exchange {e : Exchange} (t : Trace ν) (h : e.stage ≠ .indexCatalog) :
    catalogReplies (.exchange e :: t) = t.catalogReplies := by
  rw [catalogReplies, exchanges_exchange, List.filterMap_cons_none (e.catalogReply_eq_none h)]
  rfl

theorem catalogReplies_eq_nil {t : Trace ν} (h : ∀ e ∈ t.exchanges, e.stage ≠ .indexCatalog) :
    t.catalogReplies = [] :=
  List.filterMap_eq_nil_iff.mpr fun e he => e.catalogReply_eq_none (h e he)

theorem calls_eq_nil {t : Trace ν} (h : t.exchanges = []) : t.calls = [] := by
  rw [calls, h, List.map_nil]

end Trace

namespace Task

def Makes (calls : List Call) (task : Task ν α) : Prop :=
  ∀ (t : Trace ν) (r : Except Failure α), Follows task t r →
    t.catalogReplies = [] ∧ t.calls <+: calls ∧ ∀ a, r = .ok a → t.calls = calls

/-- The calls follow a plan that depends on what the catalog replies. A task that succeeds
has got a given number of replies. -/
def Plans (replies : Nat) (plan : List (List Row) → List Call) (task : Task ν α) : Prop :=
  ∀ (t : Trace ν) (r : Except Failure α), Follows task t r →
    t.calls <+: plan t.catalogReplies ∧
      ∀ a, r = .ok a → t.calls = plan t.catalogReplies ∧ t.catalogReplies.length = replies

variable {calls others : List Call} {n : Nat} {plan : List (List Row) → List Call}

theorem makes_of_exchanges {task : Task ν α}
    (h : ∀ (t : Trace ν) (r : Except Failure α), Follows task t r → t.exchanges = []) :
    Makes [] task := by
  intro t r hf
  have ht := h t r hf
  rw [Trace.calls_eq_nil ht]
  exact ⟨Trace.catalogReplies_eq_nil (by simp [ht]), List.prefix_rfl, fun _ _ => rfl⟩

theorem makes_of_yields {task : Task ν α} {r : Except Failure α} (h : Yields task r) :
    Makes [] task :=
  makes_of_exchanges fun t x hf => (h t x hf).1

theorem makes_pure (a : α) : Makes [] (pure a : Task ν α) := makes_of_yields (yields_pure a)

theorem makes_ofValue (conversion : Except ValueFault α) :
    Makes [] (ofValue conversion : Task ν α) :=
  makes_of_yields (yields_ofValue conversion)

theorem makes_ofInput (check : Except InputFault α) : Makes [] (ofInput check : Task ν α) :=
  makes_of_yields (yields_ofInput check)

theorem makes_readClock : Makes [] (readClock : Task ν ν) := by
  apply makes_of_exchanges
  intro t r hf
  obtain ⟨x, rfl, -⟩ := follows_readClock.mp hf
  rfl

theorem makes_bind {task : Task ν α} {f : α → Task ν β} (ht : Makes calls task)
    (hf : ∀ a, Makes others (f a)) : Makes (calls ++ others) (task >>= f) := by
  intro t r h
  rcases follows_bind.mp h with ⟨t₁, t₂, a, rfl, h₁, h₂⟩ | ⟨failure, h₁, rfl⟩
  · obtain ⟨hn₁, -, hc₁⟩ := ht _ _ h₁
    obtain ⟨hn₂, hp, hc₂⟩ := hf a _ _ h₂
    rw [Trace.catalogReplies_append, Trace.calls_append, hn₁, hn₂, hc₁ a rfl,
      List.prefix_append_right_inj]
    exact ⟨rfl, hp, fun b hb => by rw [hc₂ b hb]⟩
  · obtain ⟨hn, hp, -⟩ := ht _ _ h₁
    refine ⟨hn, hp.trans (List.prefix_append _ _), ?_⟩
    simp

/-- A step without calls does not show in the calls of what it stands before. -/
theorem makes_after {task : Task ν α} {f : α → Task ν β} (ht : Makes [] task)
    (hf : ∀ a, Makes calls (f a)) : Makes calls (task >>= f) := makes_bind ht hf

theorem makes_then {task : Task ν α} {f : α → Task ν β} (ht : Makes calls task)
    (hf : ∀ a, Makes [] (f a)) : Makes calls (task >>= f) := by
  simpa using makes_bind ht hf

variable {limit : TimeLimit} {stage : Stage} {c : Call}

theorem makes_single {task : Task ν α} (hs : stage ≠ .indexCatalog)
    (h : ∀ (t : Trace ν) (r : Except Failure α), Follows task t r →
      ∃ outcome : c.Outcome, t.exchanges = [⟨stage, c, outcome⟩]) :
    Makes [c] task := by
  intro t r hf
  obtain ⟨outcome, ht⟩ := h t r hf
  have hc : t.calls = [c] := by rw [Trace.calls, ht, List.map_singleton]
  rw [hc]
  exact ⟨Trace.catalogReplies_eq_nil (by simp [ht, hs]), List.prefix_rfl, fun _ _ => rfl⟩

theorem makes_mandatory (hl : limit.isSpent = false) (hs : stage ≠ .indexCatalog) :
    Makes [c] (mandatory stage c limit : Task ν c.Answer) := by
  apply makes_single hs
  intro t r hf
  obtain ⟨outcome, rfl, -⟩ := (follows_mandatory hl).mp hf
  exact ⟨outcome, rfl⟩

theorem makes_bestEffort (hl : limit.isSpent = false) (hs : stage ≠ .indexCatalog) :
    Makes [c] (bestEffort stage c limit : Task ν (Option c.Answer)) := by
  apply makes_single hs
  intro t r hf
  obtain ⟨outcome, notes, rfl, -⟩ := follows_bestEffort hl hf
  exact ⟨outcome, by simp⟩

theorem makes_onFatal {report : Failure → String} (hl : limit.isSpent = false)
    (hs : stage ≠ .indexCatalog) :
    Makes [c] (onFatal (do let _ ← mandatory stage c limit) report : Task ν Unit) := by
  apply makes_single hs
  intro t r hf
  obtain ⟨outcome, notes, rfl, -⟩ := follows_onFatal_mandatory hl hf
  exact ⟨outcome, by simp⟩

theorem plans_of_makes {task : Task ν α} (h : Makes calls task) :
    Plans 0 (fun _ => calls) task := by
  intro t r hf
  obtain ⟨hn, hp, hc⟩ := h t r hf
  exact ⟨hp, fun a ha => ⟨hc a ha, by rw [hn, List.length_nil]⟩⟩

theorem plans_after {task : Task ν α} {f : α → Task ν β} (ht : Makes calls task)
    (hf : ∀ a, Plans n plan (f a)) :
    Plans n (fun replies => calls ++ plan replies) (task >>= f) := by
  intro t r h
  rcases follows_bind.mp h with ⟨t₁, t₂, a, rfl, h₁, h₂⟩ | ⟨failure, h₁, rfl⟩
  · obtain ⟨hn, -, hc₁⟩ := ht _ _ h₁
    obtain ⟨hp, hc₂⟩ := hf a _ _ h₂
    rw [Trace.catalogReplies_append, Trace.calls_append, hn, List.nil_append, hc₁ a rfl,
      List.prefix_append_right_inj]
    refine ⟨hp, fun b hb => ?_⟩
    obtain ⟨hb, hk⟩ := hc₂ b hb
    rw [hb]
    exact ⟨rfl, hk⟩
  · obtain ⟨-, hp, -⟩ := ht _ _ h₁
    refine ⟨hp.trans (List.prefix_append _ _), ?_⟩
    simp

theorem plans_then {task : Task ν α} {f : α → Task ν β} (ht : Plans n plan task)
    (hf : ∀ a, Makes others (f a)) :
    Plans n (fun replies => plan replies ++ others) (task >>= f) := by
  intro t r h
  rcases follows_bind.mp h with ⟨t₁, t₂, a, rfl, h₁, h₂⟩ | ⟨failure, h₁, rfl⟩
  · obtain ⟨-, hc₁⟩ := ht _ _ h₁
    obtain ⟨hc₁, hk⟩ := hc₁ a rfl
    obtain ⟨hn, hp, hc₂⟩ := hf a _ _ h₂
    rw [Trace.catalogReplies_append, Trace.calls_append, hn, List.append_nil, hc₁,
      List.prefix_append_right_inj]
    exact ⟨hp, fun b hb => by rw [hc₂ b hb]; exact ⟨rfl, hk⟩⟩
  · obtain ⟨hp, -⟩ := ht _ _ h₁
    refine ⟨hp.trans (List.prefix_append _ _), ?_⟩
    simp

theorem afterClosing_eq_ok {r : Except Failure α} {outcome : Call.close.Outcome} {a : α}
    (h : afterClosing r outcome = .ok a) : r = .ok a := by
  unfold afterClosing at h
  split at h
  · cases h
  · exact h

/-- A task that works by a plan, in a session of its own: it was not begun, or the session
was refused, or some of the planned calls stand between its opening and its closing. -/
theorem follows_inSession_plans {connection : String} {task : Task ν α} {t : Trace ν}
    {r : Except Failure α} (h : limit.isSpent = false → Plans n plan task)
    (hf : Follows (inSession connection limit task) t r) :
    (t.calls = [] ∧ ∃ failure, r = .error failure) ∨
      (t.calls = [.openSession connection] ∧ ∃ failure, r = .error failure) ∨
      ∃ made, t.calls = .openSession connection :: made ++ [.close] ∧
        made <+: plan t.catalogReplies ∧
        ∀ a, r = .ok a → made = plan t.catalogReplies ∧ t.catalogReplies.length = n ∧
          ∃ t', Follows task t' (.ok a) := by
  rcases follows_inSession hf with ⟨-, rfl, rfl⟩ | ⟨-, failure, rfl, rfl⟩ | ⟨hl, rest, rfl, hc⟩
  · exact Or.inl ⟨rfl, _, rfl⟩
  · exact Or.inr (Or.inl ⟨rfl, _, rfl⟩)
  · obtain ⟨t', r', outcome, notes, rfl, hr, rfl⟩ := follows_thenClose hc
    obtain ⟨hp, hk⟩ := h hl _ _ hr
    have hn : Trace.catalogReplies (.exchange ⟨.openSession, .openSession connection, .ok ()⟩ ::
        (t' ++ .exchange ⟨.closeSession, .close, outcome⟩ :: notes.map Step.remark)) =
          t'.catalogReplies := by
      rw [Trace.catalogReplies_exchange _ (by simp), Trace.catalogReplies_append,
        Trace.catalogReplies_exchange _ (by simp), Trace.catalogReplies_remarks, List.append_nil]
    rw [hn]
    refine Or.inr (Or.inr ⟨t'.calls, by simp, hp, fun a ha => ?_⟩)
    have hr' := afterClosing_eq_ok ha
    obtain ⟨hcalls, hlength⟩ := hk a hr'
    exact ⟨hcalls, hlength, t', hr' ▸ hr⟩

end Task

end QueryTuning
