import QueryTuning.Measure.Metrics
import Mathlib.Algebra.BigOperators.Ring.Finset
import Mathlib.Algebra.Field.Basic
import Mathlib.Algebra.Field.Rat
import Mathlib.Algebra.Order.Ring.Rat

/-!
# Exact figures

Figures may be measured in exact fractions as well as in double precision. What is no number
has no exact value, and neither has a mean that it enters. Conversions fail where they fail in
double precision, but means are never too large.
-/

set_option autoImplicit false

namespace QueryTuning

abbrev Exact := Option Rat

namespace Exact

def ofCell (c : Cell) : Except ValueFault Exact :=
  c.realOrZero.map fun x =>
    match c with
    | .integer n => some (n : Rat)
    | _ => x.toRat?

def difference (x y : Exact) : Exact := x.bind fun a => y.map fun b => a - b

def mean (xs : List Exact) : Exact := (xs.mapM id).map fun values => values.sum / values.length

instance : Quantity Exact where
  ofCount n := some n
  ofReal := Binary64.toRat?
  ofCell := ofCell
  difference := difference
  thousandfold x := x.map (1000 * ·)
  thousandth x := x.map (· / 1000)
  mean xs := .ok (mean xs)

theorem mean_some (values : List Rat) :
    mean (values.map some) = some (values.sum / values.length) := by
  have hall : (values.map some).mapM id = some values := by
    induction values with
    | nil => rfl
    | cons value values ih => rw [List.map_cons, List.mapM_cons, ih]; rfl
  rw [mean, hall]
  rfl

theorem mapM_map (f : Rat → Rat) (xs : List Exact) :
    (xs.map (Option.map f)).mapM id = (xs.mapM id).map (List.map f) := by
  induction xs with
  | nil => rfl
  | cons x xs ih =>
    rw [List.map_cons, List.mapM_cons, List.mapM_cons, ih]
    cases x with
    | none => rfl
    | some value => cases xs.mapM id <;> rfl

theorem sum_div (values : List Rat) (d : Rat) : (values.map (· / d)).sum = values.sum / d := by
  induction values with
  | nil => simp
  | cons value values ih => rw [List.map_cons, List.sum_cons, List.sum_cons, ih, add_div]

/-- It does not matter whether numbers are converted before or after their mean is taken. -/
theorem mean_thousandth (xs : List Exact) :
    mean (xs.map Quantity.thousandth) = Quantity.thousandth (mean xs) := by
  show mean (xs.map (Option.map (· / 1000))) = (mean xs).map (· / 1000)
  rw [mean, mean, mapM_map]
  cases xs.mapM id with
  | none => rfl
  | some values =>
    show some ((values.map (· / 1000)).sum / ((values.map (· / 1000)).length : Rat)) =
      some (values.sum / values.length / 1000)
    rw [sum_div, List.length_map, div_right_comm]

theorem sum_range (n : Nat) (f : Nat → Rat) :
    ((List.range n).map f).sum = ∑ i ∈ Finset.range n, f i := by
  induction n with
  | zero => rfl
  | succ n ih =>
    rw [List.range_succ, List.map_append, List.sum_append, ih, Finset.sum_range_succ,
      List.map_singleton, List.sum_singleton]

/-- The mean time of runs whose beginnings and ends were read from a clock in turn. -/
theorem mean_elapsed (c : Nat → Rat) (n : Nat) :
    mean ((List.range n).map fun i =>
        Quantity.thousandfold (difference (some (c (2 * i + 1))) (some (c (2 * i))))) =
      some (1000 / n * ∑ i ∈ Finset.range n, (c (2 * i + 1) - c (2 * i))) := by
  have hvalues : ((List.range n).map fun i =>
      Quantity.thousandfold (difference (some (c (2 * i + 1))) (some (c (2 * i))))) =
        ((List.range n).map fun i => 1000 * (c (2 * i + 1) - c (2 * i))).map some := by
    rw [List.map_map]
    rfl
  rw [hvalues, mean_some, sum_range, List.length_map, List.length_range, ← Finset.mul_sum,
    mul_div_right_comm]

end Exact

end QueryTuning
