import QueryTuning.Odbc.Connection

/-!
# Requests of an action

An action adds what it asks the driver for to every log. What holds of these records and of the
result, whatever the driver answers, is put together along the action: from step to step, and
through what is done afterwards or on cancellation.
-/

set_option autoImplicit false

namespace QueryTuning.Odbc

variable {δ α β : Type}

namespace Action

def runFrom (a : Action δ α) (log : Log δ) : Except Failure α × Log δ := a.run log

theorem runFrom_bind (a : Action δ α) (f : α → Action δ β) (log : Log δ) :
    (a >>= f).runFrom log =
      match (a.runFrom log).1 with
      | .ok x => (f x).runFrom (a.runFrom log).2
      | .error failure => (.error failure, (a.runFrom log).2) := by
  change (ExceptT.bindCont f (a.runFrom log).1 : StateM (Log δ) (Except Failure β))
    (a.runFrom log).2 = _
  cases (a.runFrom log).1 <;> rfl

theorem runFrom_mk (a : Action δ α) (f : Except Failure α → StateM (Log δ) (Except Failure β))
    (log : Log δ) :
    runFrom (ExceptT.mk (a.run >>= f)) log = f (a.runFrom log).1 (a.runFrom log).2 := rfl

theorem runFrom_afterwards (a : Action δ α) (cleanup : Action δ β) (log : Log δ) :
    (afterwards a cleanup).runFrom log =
      match (cleanup.runFrom (a.runFrom log).2).1 with
      | .ok _ => ((a.runFrom log).1, (cleanup.runFrom (a.runFrom log).2).2)
      | .error failure => (.error failure, (cleanup.runFrom (a.runFrom log).2).2) := by
  rw [afterwards, runFrom_mk]
  change runFrom (ExceptT.mk (cleanup.run >>= _)) _ = _
  rw [runFrom_mk]
  cases (cleanup.runFrom (a.runFrom log).2).1 <;> rfl

theorem runFrom_whenCancelled (a : Action δ α) (cleanup : Action δ β) (log : Log δ) :
    (whenCancelled a cleanup).runFrom log =
      ((a.runFrom log).1,
        if failureOf (a.runFrom log).1 = some .cancelled then (cleanup.runFrom (a.runFrom log).2).2
        else (a.runFrom log).2) := by
  rw [whenCancelled, runFrom_mk]
  rcases a.runFrom log with ⟨failure | x, log'⟩
  · cases failure <;> rfl
  · rfl

def Asks (a : Action δ α) (P : List Record → Except Failure α → Prop) : Prop :=
  ∀ log, ∃ made, (a.runFrom log).2.records = log.records ++ made ∧ P made (a.runFrom log).1

variable {a : Action δ α} {P : List Record → Except Failure α → Prop}

theorem asks_mono {Q : List Record → Except Failure α → Prop} (ha : a.Asks P)
    (h : ∀ made result, P made result → Q made result) : a.Asks Q := by
  intro log
  obtain ⟨made, hmade, hP⟩ := ha log
  exact ⟨made, hmade, h made _ hP⟩

theorem asks_pure {x : α} (h : P [] (.ok x)) : (pure x : Action δ α).Asks P :=
  fun _ => ⟨[], (List.append_nil _).symm, h⟩

theorem asks_ask {request : Request} {answer : δ → Except Failure α × δ}
    (h : ∀ result, P [⟨request, failureOf result⟩] result) : (ask request answer).Asks P :=
  fun log => ⟨_, rfl, h (answer log.driver).1⟩

theorem asks_settle {request : Request} {result : Except Failure α}
    (h : P [⟨request, failureOf result⟩] result) : (settle request result : Action δ α).Asks P :=
  fun _ => ⟨_, rfl, h⟩

theorem asks_bind {f : α → Action δ β} {Q : List Record → Except Failure β → Prop}
    (ha : a.Asks P) (hstop : ∀ made failure, P made (.error failure) → Q made (.error failure))
    (hgo : ∀ made x, P made (.ok x) → (f x).Asks fun more result => Q (made ++ more) result) :
    (a >>= f).Asks Q := by
  intro log
  obtain ⟨made, hmade, hP⟩ := ha log
  rw [runFrom_bind]
  cases hresult : (a.runFrom log).1 with
  | error failure => exact ⟨made, hmade, hstop made failure (hresult ▸ hP)⟩
  | ok x =>
    obtain ⟨more, hmore, hQ⟩ := hgo made x (hresult ▸ hP) (a.runFrom log).2
    exact ⟨made ++ more, by rw [hmore, hmade, List.append_assoc], hQ⟩

def replacedBy (result : Except Failure α) (outcome : Except Failure β) : Except Failure α :=
  match outcome with
  | .ok _ => result
  | .error failure => .error failure

theorem asks_afterwards {cleanup : Action δ β} {Q : List Record → Except Failure α → Prop}
    (ha : a.Asks P)
    (hcleanup : ∀ made result, P made result →
      cleanup.Asks fun more outcome => Q (made ++ more) (replacedBy result outcome)) :
    (afterwards a cleanup).Asks Q := by
  intro log
  obtain ⟨made, hmade, hP⟩ := ha log
  obtain ⟨more, hmore, hQ⟩ := hcleanup made _ hP (a.runFrom log).2
  rw [hmade, List.append_assoc] at hmore
  rw [runFrom_afterwards]
  cases houtcome : (cleanup.runFrom (a.runFrom log).2).1 <;> rw [houtcome] at hQ <;>
    exact ⟨made ++ more, hmore, hQ⟩

theorem asks_whenCancelled {cleanup : Action δ β} {Q : List Record → Except Failure α → Prop}
    (ha : a.Asks P) (hspared : ∀ made result, P made result → failureOf result ≠ some .cancelled →
      Q made result)
    (hstruck : ∀ made result, P made result → failureOf result = some .cancelled →
      cleanup.Asks fun more _ => Q (made ++ more) result) :
    (whenCancelled a cleanup).Asks Q := by
  intro log
  obtain ⟨made, hmade, hP⟩ := ha log
  rw [runFrom_whenCancelled]
  split
  next hcancelled =>
    obtain ⟨more, hmore, hQ⟩ := hstruck made _ hP hcancelled (a.runFrom log).2
    exact ⟨made ++ more, by rw [hmore, hmade, List.append_assoc], hQ⟩
  next hcancelled => exact ⟨made, hmade, hspared made _ hP hcancelled⟩

end Action

def Reported (made : List Record) (result : Except Failure α) : Prop :=
  ∀ failure, Action.failureOf result = some failure → ∃ r ∈ made, r.failure = some failure

variable {made more : List Record} {result : Except Failure α}

theorem reported_ok {x : α} : Reported made (.ok x : Except Failure α) := by
  intro failure h
  simp [Action.failureOf] at h

theorem reported_single {request : Request} :
    Reported [⟨request, Action.failureOf result⟩] result := by
  intro failure h
  exact ⟨_, List.mem_singleton_self _, h⟩

theorem Reported.append_left (h : Reported made result) : Reported (made ++ more) result := by
  intro failure hfailure
  obtain ⟨r, hr, hreason⟩ := h failure hfailure
  exact ⟨r, List.mem_append_left _ hr, hreason⟩

theorem Reported.append_right (h : Reported more result) : Reported (made ++ more) result := by
  intro failure hfailure
  obtain ⟨r, hr, hreason⟩ := h failure hfailure
  exact ⟨r, List.mem_append_right _ hr, hreason⟩

theorem Reported.replacedBy {outcome : Except Failure β} (h : Reported made result)
    (h' : Reported more outcome) : Reported (made ++ more) (Action.replacedBy result outcome) := by
  cases outcome with
  | ok _ => exact h.append_left
  | error failure => exact h'.append_right

def OnlyReads (made : List Record) : Prop :=
  ∀ r ∈ made, r.request = .fetchAll ∨ r.request = .nextSet

def RunsOnce (sql : String) (parameters : List Cell) (made : List Record) : Prop :=
  ∃ failure reads, made = ⟨.execute sql parameters, failure⟩ :: reads ∧ OnlyReads reads

def Reads (made : List Record) (result : Except Failure α) : Prop :=
  OnlyReads made ∧ Reported made result

theorem reads_pure (x : α) : (pure x : Action δ α).Asks Reads :=
  Action.asks_pure ⟨by simp [OnlyReads], reported_ok⟩

theorem reads_settle {request : Request} (h : request = .fetchAll ∨ request = .nextSet)
    (result : Except Failure α) : (Action.settle request result : Action δ α).Asks Reads :=
  Action.asks_settle ⟨by simpa [OnlyReads] using h, reported_single⟩

theorem reads_bind {a : Action δ α} {f : α → Action δ β} (ha : a.Asks Reads)
    (hf : ∀ x, (f x).Asks Reads) : (a >>= f).Asks Reads := by
  refine Action.asks_bind ha (fun _ _ h => h) fun made x hmade => ?_
  refine Action.asks_mono (hf x) fun more result hmore => ⟨?_, hmore.2.append_right⟩
  intro r hr
  rcases List.mem_append.mp hr with hr | hr
  · exact hmade.1 r hr
  · exact hmore.1 r hr

theorem reads_fetch (set : ResultSet) :
    (fetch set : Action δ (Option (List String × List (List Cell)))).Asks Reads := by
  unfold fetch
  cases set.columns with
  | none => exact reads_pure none
  | some columns => exact reads_bind (reads_settle (.inl rfl) _) fun _ => reads_pure _

theorem reads_fetchRows (set : ResultSet) : (fetchRows set : Action δ (List Row)).Asks Reads := by
  refine reads_bind (reads_fetch set) fun found => ?_
  cases found with
  | none => exact reads_pure []
  | some _ => exact reads_pure _

theorem reads_noNextSet (failure : Option Failure) :
    (noNextSet failure : Action δ Unit).Asks Reads :=
  reads_settle (.inr rfl) _

theorem reads_discard (results : Results) : (discard results : Action δ Unit).Asks Reads := by
  induction results with
  | last _ failure => exact reads_noNextSet failure
  | more _ _ ih => exact reads_bind (reads_settle (.inr rfl) _) fun _ => ih

theorem reads_searchSet (found : Option String) (set : ResultSet) :
    (searchSet found set : Action δ (Option String)).Asks Reads := by
  refine reads_bind (reads_fetch set) fun fetched => ?_
  cases fetched with
  | none => exact reads_pure found
  | some _ => exact reads_pure _

theorem reads_searchPlan (found : Option String) (results : Results) :
    (searchPlan found results : Action δ (Option String)).Asks Reads := by
  induction results generalizing found with
  | last set failure =>
    refine reads_bind (reads_searchSet found set) fun _ => ?_
    exact reads_bind (reads_noNextSet failure) fun _ => reads_pure _
  | more set _ ih =>
    refine reads_bind (reads_searchSet found set) fun found => ?_
    exact reads_bind (reads_settle (.inr rfl) _) fun _ => ih found

theorem asks_runStatement (d : Driver δ) (sql : String) (parameters : List Cell) :
    (runStatement d sql parameters).Asks fun made result =>
      made = [⟨.execute sql parameters, Action.failureOf result⟩] :=
  Action.asks_ask fun _ => rfl

/-- A statement is run and what it results in is read. -/
theorem asks_statement (d : Driver δ) (sql : String) (parameters : List Cell)
    {f : Results → Action δ α} (hf : ∀ results, (f results).Asks Reads) :
    (runStatement d sql parameters >>= f).Asks fun made result =>
      RunsOnce sql parameters made ∧ Reported made result := by
  refine Action.asks_bind (asks_runStatement d sql parameters) ?_ ?_
  · rintro made failure rfl
    exact ⟨⟨_, [], rfl, by simp [OnlyReads]⟩, reported_single⟩
  · rintro made results rfl
    refine Action.asks_mono (hf results) fun reads result hreads => ?_
    exact ⟨⟨_, reads, rfl, hreads.1⟩, hreads.2.append_right⟩

def Serves : Call → List Record → Prop
  | .fetchAll sql parameters, uses => RunsOnce sql parameters uses
  | .execute sql, uses => RunsOnce sql [] uses
  | .fetchPlan sql mode, uses =>
    (∃ failure, uses = [⟨.execute (toggle mode "ON") [], some failure⟩]) ∨
      ∃ run failure, RunsOnce sql [] run ∧
        uses = ⟨.execute (toggle mode "ON") [], none⟩ ::
          (run ++ [⟨.execute (toggle mode "OFF") [], failure⟩])
  | .openSession _, _ | .close, _ => False

def onCursor (uses : List Record) : List Record :=
  ⟨.openCursor, none⟩ :: (uses ++ [⟨.closeCursor, none⟩])

/-- A cursor is closed after its use, and nothing is asked of it then but to cancel a request of
it that was cancelled. -/
theorem asks_withCursor (d : Driver δ) {a : Action δ α} {P : List Record → Prop}
    (ha : a.Asks fun uses result => P uses ∧ Reported uses result) :
    (withCursor d a).Asks fun made _ =>
      (∃ uses, P uses ∧ made = onCursor uses) ∨ ∃ r ∈ made, r.failure = some .cancelled := by
  have hclosed : (Action.afterwards a (Action.settle .closeCursor (.ok ()))).Asks
      fun made result =>
        (∃ uses, P uses ∧ made = uses ++ [⟨.closeCursor, none⟩]) ∧ Reported made result := by
    refine Action.asks_afterwards ha fun uses result huses => Action.asks_settle ?_
    exact ⟨⟨uses, huses.1, rfl⟩, huses.2.append_left⟩
  have hended : (Action.whenCancelled (Action.afterwards a (Action.settle .closeCursor (.ok ())))
      (Action.ask .cancel d.cancel)).Asks fun made _ =>
        (∃ uses, P uses ∧ made = uses ++ [⟨.closeCursor, none⟩]) ∨
          ∃ r ∈ made, r.failure = some .cancelled := by
    refine Action.asks_whenCancelled hclosed (fun _ _ hmade _ => .inl hmade.1) ?_
    rintro made result ⟨-, hreported⟩ hcancelled
    obtain ⟨r, hr, hreason⟩ := hreported _ hcancelled
    exact Action.asks_ask fun _ => .inr ⟨r, List.mem_append_left _ hr, hreason⟩
  refine Action.asks_bind (P := fun made result => made = [⟨.openCursor, none⟩] ∧ result = .ok ())
    (Action.asks_settle ⟨rfl, rfl⟩) (by simp) ?_
  rintro _ _ ⟨rfl, -⟩
  refine Action.asks_mono hended fun made _ hmade => ?_
  rcases hmade with ⟨uses, huses, rfl⟩ | ⟨r, hr, hreason⟩
  · exact .inl ⟨uses, huses, rfl⟩
  · exact .inr ⟨r, List.mem_append_right _ hr, hreason⟩

theorem asks_planStatement (d : Driver δ) (sql : String) (mode : Plan.Mode) :
    (do
      let _ ← runStatement d (toggle mode "ON") []
      Action.afterwards
        (do
          let results ← runStatement d sql []
          searchPlan none results)
        (runStatement d (toggle mode "OFF") []) : Action δ (Option String)).Asks
      fun uses result => Serves (.fetchPlan sql mode) uses ∧ Reported uses result := by
  refine Action.asks_bind (asks_runStatement d _ _) ?_ ?_
  · rintro _ failure rfl
    exact ⟨.inl ⟨failure, rfl⟩, reported_single⟩
  rintro _ _ rfl
  refine Action.asks_afterwards (asks_statement d sql [] (reads_searchPlan none)) ?_
  rintro run result ⟨hrun, hreported⟩
  refine Action.asks_mono (asks_runStatement d _ _) ?_
  rintro _ outcome rfl
  refine ⟨.inr ⟨run, _, hrun, rfl⟩, Reported.append_right (hreported.replacedBy reported_single)⟩

/-- A call that runs a statement has a cursor to itself, unless it is cancelled. -/
theorem asks_perform (d : Driver δ) {c : Call} (hc : c.isRoundTrip = true) :
    (perform d c).Asks fun made _ =>
      (∃ uses, Serves c uses ∧ made = onCursor uses) ∨ ∃ r ∈ made, r.failure = some .cancelled := by
  cases c with
  | openSession _ | close => cases hc
  | fetchAll sql parameters =>
    exact asks_withCursor d (asks_statement d sql parameters fun _ => reads_fetchRows _)
  | execute sql => exact asks_withCursor d (asks_statement d sql [] reads_discard)
  | fetchPlan sql mode => exact asks_withCursor d (asks_planStatement d sql mode)

end QueryTuning.Odbc
