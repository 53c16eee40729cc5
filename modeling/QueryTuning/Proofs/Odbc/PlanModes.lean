import Mathlib.Data.List.Forall2
import Mathlib.Data.List.Infix
import QueryTuning.Odbc.Script
import QueryTuning.Proofs.Odbc.Requests

/-!
# Plan modes

Whether the server has a plan mode on follows from the statements that were run without a failure.
A call switches a mode on for one statement of its own and off again, so a mode is on between calls
only after a statement failed that should have switched it off.
-/

set_option autoImplicit false

namespace QueryTuning.Odbc

variable {δ : Type}

structure Switching where
  effect : String → Plan.Mode → Option Bool
  effect_on : ∀ mode other,
    effect (toggle mode "ON") other = if other = mode then some true else none
  effect_off : ∀ mode other,
    effect (toggle mode "OFF") other = if other = mode then some false else none

namespace Switching

def exact : Switching where
  effect sql mode :=
    if sql = toggle mode "ON" then some true
    else if sql = toggle mode "OFF" then some false
    else none
  effect_on mode other := by cases mode <;> cases other <;> decide +kernel
  effect_off mode other := by cases mode <;> cases other <;> decide +kernel

variable (s : Switching)

def IsPlain : Call → Prop
  | .fetchAll sql _ | .execute sql | .fetchPlan sql _ => ∀ mode, s.effect sql mode = none
  | .openSession _ | .close => False

theorem toggle_toList (mode : Plan.Mode) (position : String) :
    (toggle mode position).toList = (toggle mode "").toList ++ position.toList := by
  unfold toggle
  rw [String.toList_append, String.toList_append, String.toList_empty, List.append_nil]

/-- A statement without the words that switch a mode switches none. -/
theorem effect_exact {sql : String} (h : ∀ mode, ¬ (toggle mode "").toList <:+: sql.toList)
    (mode : Plan.Mode) : exact.effect sql mode = none := by
  have hnone : ∀ position, sql ≠ toggle mode position := by
    rintro position rfl
    exact h mode ⟨[], position.toList, (toggle_toList mode position).symm⟩
  simp only [exact, hnone, if_false]

def step (mode : Plan.Mode) (on : Bool) (r : Record) : Bool :=
  match r.request, r.failure with
  | .execute sql _, none => (s.effect sql mode).getD on
  | _, _ => on

def after (mode : Plan.Mode) (on : Bool) (records : List Record) : Bool :=
  records.foldl (s.step mode) on

variable {s} {mode : Plan.Mode} {on : Bool} {made : List Record}

theorem after_append (more : List Record) :
    s.after mode on (made ++ more) = s.after mode (s.after mode on made) more :=
  List.foldl_append

theorem step_failed (request : Request) (failure : Failure) :
    s.step mode on ⟨request, some failure⟩ = on := by
  cases request <;> rfl

theorem step_statement {sql : String} {parameters : List Cell} {failure : Option Failure}
    (h : s.effect sql mode = none) : s.step mode on ⟨.execute sql parameters, failure⟩ = on := by
  cases failure with
  | none => simp [step, h]
  | some failure => exact step_failed _ failure

theorem after_reads (h : OnlyReads made) : s.after mode on made = on := by
  induction made with
  | nil => rfl
  | cons r made ih =>
    have hstep : s.step mode on r = on := by
      rcases h r (by simp) with hr | hr <;> simp [step, hr]
    rw [after, List.foldl_cons, hstep]
    exact ih fun r hr => h r (by simp [hr])

theorem after_runsOnce {sql : String} {parameters : List Cell} (h : s.effect sql mode = none)
    (hmade : RunsOnce sql parameters made) : s.after mode on made = on := by
  obtain ⟨failure, reads, rfl, hreads⟩ := hmade
  rw [after, List.foldl_cons, step_statement h]
  exact after_reads hreads

theorem after_onCursor (uses : List Record) :
    s.after mode on (onCursor uses) = s.after mode on uses := by
  rw [onCursor, after, List.foldl_cons, List.foldl_append]
  rfl

end Switching

def FailedOff (mode : Plan.Mode) (r : Record) : Prop :=
  r.request = .execute (toggle mode "OFF") [] ∧ r.failure ≠ none

instance (mode : Plan.Mode) (r : Record) : Decidable (FailedOff mode r) :=
  inferInstanceAs (Decidable (_ ∧ _))

variable {s : Switching} {mode : Plan.Mode} {on : Bool}

/-- What a call leaves on was on before, or could not be switched off. -/
theorem on_of_serves {c : Call} {uses : List Record} (hc : s.IsPlain c) (huses : Serves c uses)
    (h : s.after mode on uses = true) : on = true ∨ ∃ r ∈ uses, FailedOff mode r := by
  cases c with
  | openSession _ | close => exact huses.elim
  | fetchAll sql parameters =>
    rw [Switching.after_runsOnce (hc mode) huses] at h
    exact .inl h
  | execute sql =>
    rw [Switching.after_runsOnce (hc mode) huses] at h
    exact .inl h
  | fetchPlan sql mode' =>
    rcases huses with ⟨failure, rfl⟩ | ⟨run, failure, hrun, rfl⟩
    · rw [Switching.after, List.foldl_cons, Switching.step_failed] at h
      exact .inl h
    · rw [Switching.after, List.foldl_cons, ← Switching.after, Switching.after_append,
        Switching.after_runsOnce (hc mode) hrun, Switching.after, List.foldl_cons,
        List.foldl_nil] at h
      by_cases hmode : mode = mode'
      · subst hmode
        cases failure with
        | none => simp [Switching.step, s.effect_off] at h
        | some failure => exact .inr ⟨⟨_, some failure⟩, by simp, rfl, by simp⟩
      · rw [Switching.step_statement (by simp [s.effect_off, hmode]),
          Switching.step_statement (by simp [s.effect_on, hmode])] at h
        exact .inl h

theorem on_of_calls {calls : List Call} {uses : List (List Record)}
    (hcalls : ∀ c ∈ calls, s.IsPlain c) (huses : List.Forall₂ Serves calls uses)
    (h : s.after mode on (uses.flatMap onCursor) = true) :
    on = true ∨ ∃ r ∈ uses.flatMap onCursor, FailedOff mode r := by
  induction huses generalizing on with
  | nil => exact .inl h
  | @cons c block calls uses hblock _ ih =>
    rw [List.flatMap_cons, Switching.after_append, Switching.after_onCursor] at h
    rcases ih (fun c hc => hcalls c (by simp [hc])) h with hon | ⟨r, hr, hfailed⟩
    · rcases on_of_serves (hcalls c (by simp)) hblock hon with hon | ⟨r, hr, hfailed⟩
      · exact .inl hon
      · exact .inr ⟨r, by simp [onCursor, hr], hfailed⟩
    · exact .inr ⟨r, by simp [hr], hfailed⟩

def performAll (d : Driver δ) (calls : List Call) (log : Log δ) : Log δ :=
  calls.foldl (fun log c => ((perform d c).runFrom log).2) log

theorem Switching.IsPlain.isRoundTrip {c : Call} (hc : s.IsPlain c) : c.isRoundTrip = true := by
  cases c <;> first | rfl | exact hc.elim

/-- Without a cancellation the requests of each call are those of one cursor. -/
theorem performAll_records (d : Driver δ) {calls : List Call} {log : Log δ}
    (hcalls : ∀ c ∈ calls, c.isRoundTrip = true)
    (hfree : ∀ r ∈ (performAll d calls log).records, r.failure ≠ some .cancelled) :
    ∃ uses, List.Forall₂ Serves calls uses ∧ ∀ n,
      (performAll d (calls.take n) log).records =
        log.records ++ (uses.take n).flatMap onCursor := by
  induction calls generalizing log with
  | nil => exact ⟨[], .nil, fun n => by simp [performAll]⟩
  | cons c calls ih =>
    obtain ⟨uses, huses, hrecords⟩ := ih (fun c hc => hcalls c (by simp [hc])) hfree
    obtain ⟨made, hmade, hserves⟩ := asks_perform d (hcalls c (by simp)) log
    have hlast := hrecords calls.length
    rw [List.take_length, hmade] at hlast
    rcases hserves with ⟨block, hblock, rfl⟩ | ⟨r, hr, hcancelled⟩
    · refine ⟨block :: uses, .cons hblock huses, fun n => ?_⟩
      cases n with
      | zero => simp [performAll]
      | succ n =>
        rw [List.take_succ_cons, List.take_succ_cons, List.flatMap_cons, ← List.append_assoc,
          ← hmade]
        exact hrecords n
    · refine absurd hcancelled (hfree r ?_)
      change r ∈ (performAll d calls ((perform d c).runFrom log).2).records
      rw [hlast]
      simp [hr]

/-- Of a session that is never cancelled, each call has a cursor to itself, which is closed when
the call ends, and a plan is asked for between the statements that switch its mode on and off.
After each call a mode is off, unless a statement failed that should have switched it off. -/
theorem plan_modes_do_not_leak (s : Switching) (d : Driver δ) (state : δ) {calls : List Call}
    (hplain : ∀ c ∈ calls, s.IsPlain c)
    (hfree : ∀ r ∈ (performAll d calls ⟨state, []⟩).records, r.failure ≠ some .cancelled) :
    ∃ uses, List.Forall₂ Serves calls uses ∧ ∀ n,
      (performAll d (calls.take n) ⟨state, []⟩).records = (uses.take n).flatMap onCursor ∧
      ∀ mode, s.after mode false (performAll d (calls.take n) ⟨state, []⟩).records = true →
        ∃ r ∈ (performAll d (calls.take n) ⟨state, []⟩).records, FailedOff mode r := by
  obtain ⟨uses, huses, hrecords⟩ :=
    performAll_records d (fun c hc => (hplain c hc).isRoundTrip) hfree
  refine ⟨uses, huses, fun n => ?_⟩
  have hmade := hrecords n
  rw [List.nil_append] at hmade
  refine ⟨hmade, fun mode hon => ?_⟩
  rw [hmade] at hon ⊢
  have hfirst : ∀ c ∈ calls.take n, s.IsPlain c := fun c hc => hplain c (List.mem_of_mem_take hc)
  rcases on_of_calls hfirst (List.forall₂_take n huses) hon with hoff | hfailed
  · cases hoff
  · exact hfailed

def refusing : Script where
  statements :=
    [⟨"SELECT Id FROM Orders", [(some ["Id"], [[.integer 1]]), (some ["Plan"], [])],
        some (.goingOn, .driver ⟨.connection, "link failure"⟩)⟩,
      ⟨"SET SHOWPLAN_XML ON", [], some (.executing, .driver ⟨.permission, "denied"⟩)⟩]
  connectFailure := none
  closeFailure := none
  cancelFailure := none

def refusedCalls : List Call :=
  [.fetchPlan "SELECT Id FROM Orders" .actual, .execute "DELETE FROM Orders",
    .fetchPlan "SELECT Id FROM Orders" .estimated, .fetchAll "SELECT Id FROM Orders" []]

theorem refused_plans_leave_modes_off :
    let log := performAll refusing.driver refusedCalls ⟨(), []⟩
    (∀ c ∈ refusedCalls, Switching.exact.IsPlain c) ∧
      (∀ r ∈ log.records, r.failure ≠ some .cancelled) ∧
      (log.records.filter fun r => r.failure.isSome).map Record.request =
        [.nextSet, .execute "SET SHOWPLAN_XML ON" []] ∧
      ∀ mode, Switching.exact.after mode false log.records = false := by
  intro log
  have hplain : ∀ c ∈ refusedCalls, Switching.exact.IsPlain c := by
    have hwords : ∀ sql ∈ ["SELECT Id FROM Orders", "DELETE FROM Orders"], ∀ mode,
        ¬ (toggle mode "").toList <:+: sql.toList := by
      intro sql hsql mode
      revert sql
      cases mode <;> decide +kernel
    have heffect : ∀ sql ∈ ["SELECT Id FROM Orders", "DELETE FROM Orders"], ∀ mode,
        Switching.exact.effect sql mode = none := fun sql hsql =>
      Switching.effect_exact (hwords sql hsql)
    simp only [refusedCalls, List.forall_mem_cons, List.not_mem_nil, false_implies, implies_true,
      and_true, Switching.IsPlain]
    exact ⟨heffect _ (by simp), heffect _ (by simp), heffect _ (by simp), heffect _ (by simp)⟩
  have hfree : ∀ r ∈ log.records, r.failure ≠ some .cancelled := by decide +kernel
  obtain ⟨uses, -, hafter⟩ :=
    plan_modes_do_not_leak Switching.exact refusing.driver () hplain hfree
  refine ⟨hplain, hfree, by decide +kernel, fun mode => ?_⟩
  have hleft := (hafter refusedCalls.length).2 mode
  rw [List.take_length] at hleft
  have hnone : ∀ r ∈ log.records, ¬ FailedOff mode r := by
    cases mode <;> decide +kernel
  by_contra hon
  obtain ⟨r, hr, hfailed⟩ := hleft (by simpa using hon)
  exact hnone r hr hfailed

end QueryTuning.Odbc
