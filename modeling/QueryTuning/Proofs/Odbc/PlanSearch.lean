import Mathlib.Data.List.Induction
import QueryTuning.Odbc.Script
import QueryTuning.Proofs.Odbc.Requests

/-!
# The plan among the results

A statement whose plan is asked for yields result sets of its own, and the plan comes among them.
Every set is visited once, from the first to the last, and what counts is the last row that consists
of one text with the mark of a plan. A row of the statement's own data may look like a plan, but a
plan that comes after it goes before it.
-/

set_option autoImplicit false

namespace QueryTuning.Odbc

variable {δ : Type}

def HoldsPlan (row : List Cell) (s : String) : Prop :=
  row = [.text s] ∧ planMark.toList <:+: s.toList

theorem planOf?_eq_some {row : List Cell} {s : String} : planOf? row = some s ↔ HoldsPlan row s := by
  unfold planOf? HoldsPlan
  split
  next t =>
    rw [← Text.occursIn_iff]
    constructor
    · intro h
      split at h
      next hmark =>
        cases h
        exact ⟨rfl, hmark⟩
      · cases h
    · rintro ⟨heq, hmark⟩
      cases heq
      rw [if_pos hmark]
  next hother =>
    constructor
    · rintro ⟨⟩
    · rintro ⟨rfl, -⟩
      exact absurd rfl (hother s)

theorem planOf?_eq_none {row : List Cell} : planOf? row = none ↔ ∀ s, ¬ HoldsPlan row s := by
  rw [Option.eq_none_iff_forall_ne_some]
  exact forall_congr' fun s => not_congr planOf?_eq_some

/-- The plan in the last row that holds one, if any row does. -/
inductive LastPlan (rows : List (List Cell)) : Option String → Prop where
  | found {s : String} (before : List (List Cell)) {row : List Cell} {after : List (List Cell)}
      (split : rows = before ++ row :: after) (holds : HoldsPlan row s)
      (last : ∀ row ∈ after, ∀ t, ¬ HoldsPlan row t) : LastPlan rows (some s)
  | missing (none_holds : ∀ row ∈ rows, ∀ t, ¬ HoldsPlan row t) : LastPlan rows none

theorem lastPlan_append (found : Option String) (rows more : List (List Cell)) :
    lastPlan found (rows ++ more) = lastPlan (lastPlan found rows) more :=
  List.foldl_append

theorem lastPlan_concat (found : Option String) (rows : List (List Cell)) (row : List Cell) :
    lastPlan found (rows ++ [row]) = (planOf? row).or (lastPlan found rows) :=
  lastPlan_append found rows [row]

/-- The induction is on the rows from behind: a last row with a plan decides, any other one leaves
the plan of the rows before it. -/
theorem lastPlan_spec (rows : List (List Cell)) : LastPlan rows (lastPlan none rows) := by
  induction rows using List.reverseRecOn with
  | nil => exact .missing (by simp)
  | append_singleton rows row ih =>
    rw [lastPlan_concat]
    cases hrow : planOf? row with
    | some s => exact .found rows rfl (planOf?_eq_some.mp hrow) (by simp)
    | none =>
      rw [Option.none_or]
      have hnone := planOf?_eq_none.mp hrow
      generalize lastPlan none rows = found at ih ⊢
      cases ih with
      | found before hsplit hholds hlast =>
        refine .found before (by rw [hsplit, List.append_assoc, List.cons_append]) hholds ?_
        exact List.forall_mem_append.mpr ⟨hlast, List.forall_mem_singleton.mpr hnone⟩
      | missing hrows =>
        exact .missing (List.forall_mem_append.mpr ⟨hrows, List.forall_mem_singleton.mpr hnone⟩)

structure DataSet where
  columns : Option (List String)
  rows : List (List Cell)

namespace DataSet

def toResultSet (set : DataSet) : ResultSet := ⟨set.columns, .ok set.rows⟩

def visible (set : DataSet) : List (List Cell) := if set.columns.isSome then set.rows else []

def fetching (set : DataSet) : List Record :=
  if set.columns.isSome then [⟨.fetchAll, none⟩] else []

def visit (set : DataSet) : List Record := set.fetching ++ [⟨.nextSet, none⟩]

end DataSet

def Results.ofSets (first : DataSet) : List DataSet → Results
  | [] => .last first.toResultSet none
  | next :: others => .more first.toResultSet (ofSets next others)

theorem runFrom_searchSet (found : Option String) (set : DataSet) (log : Log δ) :
    (searchSet found set.toResultSet).runFrom log =
      (.ok (lastPlan found set.visible), ⟨log.driver, log.records ++ set.fetching⟩) := by
  obtain ⟨columns, rows⟩ := set
  cases columns with
  | none =>
    rw [DataSet.fetching, DataSet.visible, if_neg (by simp), if_neg (by simp), List.append_nil]
    rfl
  | some columns => rfl

/-- On a visit the plan found so far gives way to the last one of the set. -/
theorem runFrom_visit {α : Type} (found : Option String) (set : DataSet) (log : Log δ)
    (k : Option String → Action δ α) :
    (do
      let found ← searchSet found set.toResultSet
      Action.settle .nextSet (.ok ())
      k found).runFrom log =
      (k (lastPlan found set.visible)).runFrom ⟨log.driver, log.records ++ set.visit⟩ := by
  rw [Action.runFrom_bind, runFrom_searchSet]
  dsimp only
  rw [Action.runFrom_bind, DataSet.visit, ← List.append_assoc]
  rfl

theorem runFrom_searchPlan (found : Option String) (first : DataSet) (others : List DataSet)
    (log : Log δ) :
    (searchPlan found (.ofSets first others)).runFrom log =
      (.ok (lastPlan found ((first :: others).flatMap DataSet.visible)),
        ⟨log.driver, log.records ++ (first :: others).flatMap DataSet.visit⟩) := by
  induction others generalizing found first log with
  | nil =>
    rw [List.flatMap_singleton, List.flatMap_singleton]
    exact runFrom_visit found first log pure
  | cons next others ih =>
    have hrows : (first :: next :: others).flatMap DataSet.visible =
        first.visible ++ (next :: others).flatMap DataSet.visible := List.flatMap_cons
    have hvisits : (first :: next :: others).flatMap DataSet.visit =
        first.visit ++ (next :: others).flatMap DataSet.visit := List.flatMap_cons
    rw [hrows, hvisits, lastPlan_append, ← List.append_assoc]
    exact (runFrom_visit found first log fun found => searchPlan found (.ofSets next others)).trans
      (ih _ next _)

def planRequests (sql : String) (mode : Plan.Mode) (sets : List DataSet) : List Record :=
  ⟨.execute (toggle mode "ON") [], none⟩ :: ⟨.execute sql [], none⟩ ::
    (sets.flatMap DataSet.visit ++ [⟨.execute (toggle mode "OFF") [], none⟩])

theorem runFrom_runStatement {d : Driver δ} {sql : String} {state next : δ} {results : Results}
    (h : d.execute state sql [] = (.ok results, next)) (records : List Record) :
    (runStatement d sql []).runFrom ⟨state, records⟩ =
      (.ok results, ⟨next, records ++ [⟨.execute sql [], none⟩]⟩) := by
  have hask : (runStatement d sql []).runFrom ⟨state, records⟩ =
      ((d.execute state sql []).1, ⟨(d.execute state sql []).2,
        records ++ [⟨.execute sql [], Action.failureOf (d.execute state sql []).1⟩]⟩) := rfl
  rw [hask, h]
  rfl

theorem runFrom_search {d : Driver δ} {sql : String} {state next : δ} {first : DataSet}
    {others : List DataSet} (h : d.execute state sql [] = (.ok (.ofSets first others), next))
    (records : List Record) :
    (do
      let results ← runStatement d sql []
      searchPlan none results : Action δ (Option String)).runFrom ⟨state, records⟩ =
      (.ok (lastPlan none ((first :: others).flatMap DataSet.visible)),
        ⟨next, records ++ [⟨.execute sql [], none⟩] ++
          (first :: others).flatMap DataSet.visit⟩) := by
  rw [Action.runFrom_bind, runFrom_runStatement h]
  exact runFrom_searchPlan none first others _

/-- A cursor whose use ends without a failure is closed, and nothing is cancelled. -/
theorem runFrom_withCursor {α : Type} {d : Driver δ} {a : Action δ α} {log : Log δ} {x : α}
    {state : δ} {uses : List Record}
    (h : a.runFrom ⟨log.driver, log.records ++ [⟨.openCursor, none⟩]⟩ =
      (.ok x, ⟨state, log.records ++ [⟨.openCursor, none⟩] ++ uses⟩)) :
    (withCursor d a).runFrom log = (.ok x, ⟨state, log.records ++ onCursor uses⟩) := by
  have hclosed : (Action.afterwards a (Action.settle .closeCursor (.ok ()))).runFrom
      ⟨log.driver, log.records ++ [⟨.openCursor, none⟩]⟩ =
        (.ok x, ⟨state, log.records ++ [⟨.openCursor, none⟩] ++ uses ++
          [⟨.closeCursor, none⟩]⟩) := by
    rw [Action.runFrom_afterwards, h]
    rfl
  have hended : (withCursor d a).runFrom log =
      (Action.whenCancelled (Action.afterwards a (Action.settle .closeCursor (.ok ())))
        (Action.ask .cancel d.cancel)).runFrom
          ⟨log.driver, log.records ++ [⟨.openCursor, none⟩]⟩ := by
    rw [withCursor, Action.runFrom_bind]
    rfl
  rw [hended, Action.runFrom_whenCancelled, hclosed, if_neg (by simp [Action.failureOf]), onCursor]
  simp

/-- When nothing fails, a call for a plan switches the mode on, runs the statement, visits every
result set once and in order, and switches the mode off. What it returns is the text of the last
row that holds a plan, and so the plan in the last set whenever that set consists of it. -/
theorem fetchPlan_takes_last_plan (d : Driver δ) (log : Log δ) (sql : String) (mode : Plan.Mode)
    (first : DataSet) (others : List DataSet) {on off : Results} {s₁ s₂ s₃ : δ}
    (hon : d.execute log.driver (toggle mode "ON") [] = (.ok on, s₁))
    (hsql : d.execute s₁ sql [] = (.ok (.ofSets first others), s₂))
    (hoff : d.execute s₂ (toggle mode "OFF") [] = (.ok off, s₃)) :
    ∃ plan, (fetchPlan d sql mode).runFrom log =
        (.ok plan, ⟨s₃, log.records ++ onCursor (planRequests sql mode (first :: others))⟩) ∧
      LastPlan ((first :: others).flatMap DataSet.visible) plan ∧
      ∀ earlier last row s, first :: others = earlier ++ [last] → last.visible = [row] →
        HoldsPlan row s → plan = some s := by
  refine ⟨lastPlan none ((first :: others).flatMap DataSet.visible), ?_, lastPlan_spec _, ?_⟩
  · refine runFrom_withCursor ?_
    rw [Action.runFrom_bind, runFrom_runStatement hon]
    dsimp only
    rw [Action.runFrom_afterwards, runFrom_search hsql, runFrom_runStatement hoff, planRequests]
    simp
  · intro earlier last row s hsets hlast hrow
    rw [hsets, List.flatMap_append, List.flatMap_singleton, hlast, lastPlan_concat,
      planOf?_eq_some.mpr hrow, Option.some_or]

def notes : DataSet := ⟨some ["Note"], [[.text "see <ShowPlanXML/>"], [.null]]⟩

def afterNotes : List DataSet :=
  [⟨none, []⟩, ⟨some ["Id", "Note"], [[.integer 7, .text "<ShowPlanXML/>"]]⟩]

def planSet : DataSet := ⟨some ["Plan"], [[.text "<ShowPlanXML Version=1/>"]]⟩

def noteKeeper : Script where
  statements := [⟨"SELECT Note FROM Orders",
    (notes :: (afterNotes ++ [planSet])).map fun set => (set.columns, set.rows), none⟩]
  connectFailure := none
  closeFailure := none
  cancelFailure := none

theorem plan_behind_lookalikes_is_taken :
    noteKeeper.driver.execute () "SELECT Note FROM Orders" [] =
        (.ok (.ofSets notes (afterNotes ++ [planSet])), ()) ∧
      ((fetchPlan noteKeeper.driver "SELECT Note FROM Orders" .actual).runFrom ⟨(), []⟩).1 =
        .ok (some "<ShowPlanXML Version=1/>") := by
  have hquiet : ∀ position ∈ ["ON", "OFF"],
      noteKeeper.driver.execute () (toggle .actual position) [] = (.ok noResults, ()) := by
    simp only [List.forall_mem_cons, List.not_mem_nil, false_implies, implies_true, and_true]
    exact ⟨rfl, rfl⟩
  have hsql : noteKeeper.driver.execute () "SELECT Note FROM Orders" [] =
      (.ok (.ofSets notes (afterNotes ++ [planSet])), ()) := rfl
  have hholds : HoldsPlan [.text "<ShowPlanXML Version=1/>"] "<ShowPlanXML Version=1/>" :=
    ⟨rfl, by decide +kernel⟩
  obtain ⟨plan, hrun, -, hlast⟩ := fetchPlan_takes_last_plan noteKeeper.driver ⟨(), []⟩
    "SELECT Note FROM Orders" .actual notes (afterNotes ++ [planSet]) (hquiet "ON" (by simp)) hsql
    (hquiet "OFF" (by simp))
  refine ⟨hsql, ?_⟩
  rw [hrun, hlast (notes :: afterNotes) planSet _ _ rfl rfl hholds]

end QueryTuning.Odbc
