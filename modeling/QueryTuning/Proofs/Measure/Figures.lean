import QueryTuning.Measure.Benchmark
import QueryTuning.Proofs.Number.Magnitude

/-!
# Figures of measured runs

What a server tells in numbers of at most 64 bits can be converted, and the
figures made of it stay so small that their means exist. The figures of a run
that are measured do not depend on those that the server tells.
-/

set_option autoImplicit false

namespace QueryTuning

open Binary64

def Cell.IsFigure : Cell → Prop
  | .null | .truth _ => True
  | .integer n => n.natAbs ≤ 2 ^ 64
  | .real x => x.Within (2 ^ 64)
  | .text _ | .moment _ => False

namespace Binary64

theorem within_zero {b : Rat} (hb : 0 ≤ b) : zero.Within b := ⟨0, rfl, by rwa [abs_zero]⟩

theorem within_one {b : Rat} (hb : 1 ≤ b) : (finite 1).Within b :=
  ⟨1, rfl, by rwa [abs_one]⟩

theorem lt_limit {b : Rat} (h : b ≤ 2 ^ 200) : b < limit :=
  calc b ≤ 2 ^ 200 := h
    _ < twoPower 201 := by rw [twoPower_eq]; norm_num
    _ ≤ limit := twoPower_mono (by omega)

end Binary64

namespace Cell

theorem toReal_ok {c : Cell} (h : c.IsFigure) (hc : c ≠ .null) :
    ∃ x, c.toReal = .ok x ∧ x.Within (2 * 2 ^ 64) := by
  cases c with
  | null => exact absurd rfl hc
  | truth b =>
    refine ⟨_, rfl, ?_⟩
    cases b with
    | true => exact within_one (by norm_num)
    | false => exact within_zero (by norm_num)
  | integer n =>
    have hn : |(n : Rat)| ≤ 2 ^ 64 := by
      rw [← Int.cast_abs, Int.abs_eq_natAbs]
      exact_mod_cast h
    exact ofInt_ok hn (lt_limit (by norm_num))
  | real x => exact ⟨x, rfl, Within.mono h (by norm_num)⟩
  | text s => exact h.elim
  | moment m => exact h.elim

theorem realOrZero_ok {c : Cell} (h : c.IsFigure) :
    ∃ x, c.realOrZero = .ok x ∧ x.Within (2 * 2 ^ 64) := by
  unfold realOrZero
  split
  next hf =>
    apply toReal_ok h
    rintro rfl
    cases hf
  · exact ⟨zero, rfl, within_zero (by norm_num)⟩

theorem intOrZero_ok {c : Cell} (h : c.IsFigure) : ∃ n, c.intOrZero = .ok n := by
  unfold intOrZero
  split
  next hf =>
    cases c with
    | null => cases hf
    | truth b => exact ⟨_, rfl⟩
    | integer n => exact ⟨_, rfl⟩
    | real x => exact truncate_ok h
    | text s => exact h.elim
    | moment m => exact h.elim
  · exact ⟨0, rfl⟩

end Cell

namespace Measure

def statisticsColumns : List String :=
  ["execution_count", "avg_cpu_time_us", "avg_logical_reads", "avg_physical_reads", "avg_rows"]

def IsStatistics (row : Row) : Prop := ∀ column ∈ statisticsColumns, (row.cellOrNull column).IsFigure

theorem isStatistics_nil : IsStatistics [] := fun _ _ => trivial

def figureBound : Rat := 2 ^ 80

namespace Metrics

structure ToldWithin (m : Metrics Binary64) : Prop where
  cpuTimeMs : m.cpuTimeMs.Within figureBound
  logicalReads : m.logicalReads.Within figureBound
  physicalReads : m.physicalReads.Within figureBound
  rowsScanned : m.rowsScanned.Within figureBound

structure Measured where
  executionTimeMs : Binary64
  rowsReturned : Binary64
  executionPlan : String
  estimatedPlanCost : Binary64

structure Measured.Within (m : Measured) : Prop where
  executionTimeMs : m.executionTimeMs.Within figureBound
  rowsReturned : m.rowsReturned.Within figureBound
  estimatedPlanCost : m.estimatedPlanCost.Within figureBound

def measured (m : Metrics Binary64) : Measured :=
  ⟨m.executionTimeMs, m.rowsReturned, m.executionPlan, m.estimatedPlanCost⟩

end Metrics

/-- Whatever the server tells, a run has figures, and it has no part in the measured ones. -/
theorem figures_ok (plan : Plan.Extraction) (elapsed : Binary64) (rows : Nat) {statistics : Row}
    (h : IsStatistics statistics) :
    ∃ m : Metrics Binary64, figures plan elapsed rows statistics = .ok m ∧ m.ToldWithin ∧
      m.measured = ⟨elapsed.mul (.finite 1000), ofNat rows, plan.document, plan.estimatedCost⟩ := by
  obtain ⟨executions, he⟩ := Cell.intOrZero_ok (h "execution_count" (by decide))
  obtain ⟨cpu, hc, hcpu⟩ := Cell.realOrZero_ok (h "avg_cpu_time_us" (by decide))
  obtain ⟨logical, hl, hlogical⟩ := Cell.realOrZero_ok (h "avg_logical_reads" (by decide))
  obtain ⟨physical, hp, hphysical⟩ := Cell.realOrZero_ok (h "avg_physical_reads" (by decide))
  obtain ⟨scanned, hs, hscanned⟩ := Cell.realOrZero_ok (h "avg_rows" (by decide))
  have wide : (2 * 2 ^ 64 : Rat) ≤ figureBound := by norm_num [figureBound]
  have hcpu' : (cpu.div (.finite 1000)).Within figureBound :=
    (within_div hcpu rfl (by norm_num) (lt_limit (by norm_num))).mono (by norm_num [figureBound])
  simp only [figures, he, Quantity.ofCell, hc, hl, hp, hs, bind, Except.bind]
  exact ⟨_, rfl, ⟨hcpu', hlogical.mono wide, hphysical.mono wide, hscanned.mono wide⟩, rfl⟩

def readingBound : Rat := 2 ^ 63

def listBound : Nat := 2 ^ 63

theorem mean_map_ok {α : Type} {runs : List α} {figure : α → Binary64}
    (h : ∀ run ∈ runs, (figure run).Within figureBound) (hn : runs.length < listBound) :
    ∃ x, mean (runs.map figure) = .ok x := by
  have hfigures : ∀ x ∈ runs.map figure, x.Within figureBound := by
    intro x hx
    obtain ⟨run, hrun, rfl⟩ := List.mem_map.mp hx
    exact h run hrun
  have hlength : ((runs.map figure).length : Rat) ≤ 2 ^ 63 := by
    rw [List.length_map]
    exact_mod_cast (show runs.length ≤ 2 ^ 63 from Nat.le_of_lt hn)
  apply mean_ok hfigures (lt_limit _)
  calc 2 * ((runs.map figure).length * figureBound) ≤ 2 * (2 ^ 63 * figureBound) := by
        have hpos : (0 : Rat) ≤ figureBound := by norm_num [figureBound]
        gcongr
    _ ≤ 2 ^ 200 := by norm_num [figureBound]

theorem measured_within {started ended cost : Binary64} {rows : Nat} (document : String)
    (hs : started.Within readingBound) (he : ended.Within readingBound) (hn : rows < listBound)
    (hc : cost.Within readingBound) :
    (Metrics.Measured.mk ((ended.sub started).mul (.finite 1000)) (ofNat rows) document
      cost).Within := by
  have hrows : |(rows : Rat)| ≤ 2 ^ 63 := by
    rw [Nat.abs_cast]
    exact_mod_cast (show rows ≤ 2 ^ 63 from Nat.le_of_lt hn)
  have helapsed : (ended.sub started).Within (2 * (readingBound + readingBound)) :=
    within_sub he hs (lt_limit (by norm_num [readingBound]))
  constructor
  · have hproduct := within_mul helapsed (⟨1000, rfl, le_abs_self _⟩ : (finite 1000).Within |1000|)
      (lt_limit (by norm_num [readingBound]))
    exact hproduct.mono (by norm_num [readingBound, figureBound])
  · exact (within_ofRat hrows (lt_limit (by norm_num))).mono (by norm_num [figureBound])
  · exact hc.mono (by norm_num [readingBound, figureBound])

def meanMeasured (first : Metrics.Measured) (others : List Metrics.Measured) :
    Except ValueFault Metrics.Measured := do
  let executionTimeMs ← mean ((first :: others).map Metrics.Measured.executionTimeMs)
  let rowsReturned ← mean ((first :: others).map Metrics.Measured.rowsReturned)
  let estimatedPlanCost ← mean ((first :: others).map Metrics.Measured.estimatedPlanCost)
  return ⟨executionTimeMs, rowsReturned, first.executionPlan, estimatedPlanCost⟩

theorem meanMeasured_ok {first : Metrics.Measured} {others : List Metrics.Measured}
    (h : ∀ m ∈ first :: others, m.Within) (hn : (first :: others).length < listBound) :
    ∃ m, meanMeasured first others = .ok m := by
  obtain ⟨time, htime⟩ := mean_map_ok (fun m hm => (h m hm).executionTimeMs) hn
  obtain ⟨rows, hrows⟩ := mean_map_ok (fun m hm => (h m hm).rowsReturned) hn
  obtain ⟨cost, hcost⟩ := mean_map_ok (fun m hm => (h m hm).estimatedPlanCost) hn
  unfold meanMeasured
  rw [htime, hrows, hcost]
  exact ⟨_, rfl⟩

/-- The means of what was measured depend on nothing else, and the means of what the server
told always exist. -/
theorem average_measured {first : Metrics Binary64} {others : List (Metrics Binary64)}
    (h : ∀ m ∈ first :: others, m.ToldWithin) (hn : (first :: others).length < listBound) :
    (average first others).map Metrics.measured =
      meanMeasured first.measured (others.map Metrics.measured) := by
  obtain ⟨cpu, hcpu⟩ := mean_map_ok (fun m hm => (h m hm).cpuTimeMs) hn
  obtain ⟨logical, hlogical⟩ := mean_map_ok (fun m hm => (h m hm).logicalReads) hn
  obtain ⟨physical, hphysical⟩ := mean_map_ok (fun m hm => (h m hm).physicalReads) hn
  obtain ⟨scanned, hscanned⟩ := mean_map_ok (fun m hm => (h m hm).rowsScanned) hn
  have hmean (figure : Metrics.Measured → Binary64) :
      mean ((first.measured :: others.map Metrics.measured).map figure) =
        meanOf (first :: others) fun m => figure m.measured := by
    rw [meanOf, List.map_cons, List.map_cons, List.map_map]
    rfl
  have htime := hmean Metrics.Measured.executionTimeMs
  have hrows := hmean Metrics.Measured.rowsReturned
  have hcost := hmean Metrics.Measured.estimatedPlanCost
  unfold average meanMeasured
  rw [htime, hrows, hcost]
  simp only [meanOf, Quantity.mean, hcpu, hlogical, hphysical, hscanned, bind, Except.bind,
    Metrics.measured]
  cases mean ((first :: others).map Metrics.executionTimeMs) with
  | error fault => rfl
  | ok time =>
    cases mean ((first :: others).map Metrics.rowsReturned) with
    | error fault => rfl
    | ok rows =>
      cases mean ((first :: others).map Metrics.estimatedPlanCost) with
      | error fault => rfl
      | ok cost => rfl

end Measure

end QueryTuning
