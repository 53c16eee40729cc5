import QueryTuning.Number.Binary64
import Mathlib.Algebra.Order.Ring.Rat
import Mathlib.Order.WithBot

/-!
# The order of numbers

Numbers are ordered by their place between the infinities. What is not a number has a place
here too, so that there is one for every value, but the comparisons know nothing of it.
-/

set_option autoImplicit false

namespace QueryTuning.Binary64

def level : Binary64 → WithBot (WithTop Rat)
  | nan => ⊥
  | infinite negative => if negative then ⊥ else ⊤
  | negativeZero => (((0 : Rat) : WithTop Rat) : WithBot (WithTop Rat))
  | finite x => ((x : WithTop Rat) : WithBot (WithTop Rat))

variable {x y : Binary64}

theorem lt_iff (hx : x ≠ nan) (hy : y ≠ nan) : x.lt y = true ↔ x.level < y.level := by
  have htop (r : Rat) : ((r : WithTop Rat) : WithBot (WithTop Rat)) < ⊤ :=
    WithBot.coe_lt_coe.mpr (WithTop.coe_lt_top r)
  have hcoe (q r : Rat) : decide (q < r) = true ↔
      ((q : WithTop Rat) : WithBot (WithTop Rat)) < ((r : WithTop Rat)) := by
    rw [WithBot.coe_lt_coe, WithTop.coe_lt_coe]
    exact decide_eq_true_iff
  cases x with
  | nan => exact absurd rfl hx
  | infinite s =>
    cases y with
    | nan => exact absurd rfl hy
    | infinite t => cases s <;> cases t <;> simp [lt, level]
    | negativeZero | finite y => cases s <;> simp [lt, level]
  | negativeZero =>
    cases y with
    | nan => exact absurd rfl hy
    | infinite t =>
      cases t with
      | false => exact iff_of_true rfl (htop 0)
      | true => exact iff_of_false Bool.false_ne_true not_lt_bot
    | negativeZero => exact hcoe 0 0
    | finite y => exact hcoe 0 y
  | finite x =>
    cases y with
    | nan => exact absurd rfl hy
    | infinite t =>
      cases t with
      | false => exact iff_of_true rfl (htop x)
      | true => exact iff_of_false Bool.false_ne_true not_lt_bot
    | negativeZero => exact hcoe x 0
    | finite y => exact hcoe x y

theorem le_iff (hx : x ≠ nan) (hy : y ≠ nan) : x.le y = true ↔ x.level ≤ y.level := by
  have hle : x.le y = !y.lt x := by
    cases x <;> cases y <;> first | rfl | exact absurd rfl hx | exact absurd rfl hy
  rw [hle, Bool.not_eq_true', ← not_lt, ← lt_iff hy hx, Bool.not_eq_true]

theorem eq_iff (hx : x ≠ nan) (hy : y ≠ nan) : x.eq y = true ↔ x.level = y.level := by
  rw [eq, Bool.and_eq_true, le_iff hx hy, le_iff hy hx, le_antisymm_iff]

/-- Nothing equals what is not a number. -/
theorem eq_nan (x : Binary64) : x.eq nan = false := by cases x <;> rfl

/-- What is not a number is above nothing. -/
theorem ne_nan_of_lt (h : x.lt y = true) : y ≠ nan := by
  rintro rfl
  cases x <;> cases h

end QueryTuning.Binary64
