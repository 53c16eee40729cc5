import QueryTuning.Number.Mean
import QueryTuning.Session.Failure
import Mathlib.Algebra.Order.Field.Power
import Mathlib.Algebra.Order.Ring.Rat
import Mathlib.Tactic.Linarith
import Mathlib.Tactic.NormNum
import Mathlib.Tactic.Positivity

/-!
# Magnitudes

Rounding changes a magnitude by a factor of two at most. This is far from
exact, but enough to see that no figure of a measured run leaves the format,
that no mean of such figures does, and that a positive budget leaves time.
-/

set_option autoImplicit false

namespace QueryTuning.Binary64

theorem twoPower_eq (e : Int) : twoPower e = (2 : Rat) ^ e := by
  unfold twoPower
  split
  next h =>
    obtain ⟨n, rfl⟩ := Int.eq_ofNat_of_zero_le h
    simp
  next h =>
    obtain ⟨n, rfl⟩ : ∃ n : Nat, e = -n := ⟨(-e).toNat, by omega⟩
    simp

theorem twoPower_pos (e : Int) : 0 < twoPower e := by
  rw [twoPower_eq]
  positivity

theorem twoPower_succ (e : Int) : twoPower (e + 1) = 2 * twoPower e := by
  rw [twoPower_eq, twoPower_eq, zpow_add_one₀ (by norm_num), mul_comm]

theorem twoPower_natCast (n : Nat) : twoPower n = ((2 ^ n : Int) : Rat) := by
  rw [twoPower_eq, zpow_natCast, Int.cast_pow, Int.cast_ofNat]

theorem twoPower_mono {d e : Int} (h : d ≤ e) : twoPower d ≤ twoPower e := by
  rw [twoPower_eq, twoPower_eq]
  exact zpow_le_zpow_right₀ (by norm_num) h

/-- A positive quotient lies between the powers of two around its numerator and denominator. -/
theorem twoPower_bounds {x : Rat} (hx : 0 < x) :
    twoPower ((x.num.natAbs.log2 : Int) - (x.den.log2 : Int) - 1) < x ∧
      x < twoPower ((x.num.natAbs.log2 : Int) - (x.den.log2 : Int) + 1) := by
  have hnum : x.num.natAbs ≠ 0 := Int.natAbs_ne_zero.mpr (Rat.num_ne_zero.mpr hx.ne')
  have hden : (0 : Rat) < x.den := Nat.cast_pos.mpr x.den_pos
  have hquotient : (x.num.natAbs : Rat) / x.den = x := by
    have hn : ((x.num.natAbs : Int) : Rat) = x.num :=
      congrArg _ (Int.natAbs_of_nonneg (Rat.num_nonneg.mpr hx.le))
    rw [← Int.cast_natCast, hn, Rat.num_div_den]
  have hpower (i j : Nat) : twoPower ((i : Int) - j) = (2 : Rat) ^ i / (2 : Rat) ^ j := by
    rw [twoPower_eq, zpow_sub₀ (by norm_num), zpow_natCast, zpow_natCast]
  have numLow : ((2 : Rat) ^ x.num.natAbs.log2) ≤ (x.num.natAbs : Rat) := by
    exact_mod_cast Nat.log2_self_le hnum
  have numHigh : (x.num.natAbs : Rat) < (2 : Rat) ^ (x.num.natAbs.log2 + 1) := by
    exact_mod_cast Nat.lt_log2_self
  have denLow : ((2 : Rat) ^ x.den.log2) ≤ (x.den : Rat) := by
    exact_mod_cast Nat.log2_self_le x.den_nz
  have denHigh : (x.den : Rat) < (2 : Rat) ^ (x.den.log2 + 1) := by
    exact_mod_cast Nat.lt_log2_self
  constructor
  · calc twoPower ((x.num.natAbs.log2 : Int) - (x.den.log2 : Int) - 1)
        = (2 : Rat) ^ x.num.natAbs.log2 / (2 : Rat) ^ (x.den.log2 + 1) := by
          rw [← hpower, Nat.cast_add, Nat.cast_one, sub_sub]
      _ ≤ (x.num.natAbs : Rat) / (2 : Rat) ^ (x.den.log2 + 1) := by gcongr
      _ < (x.num.natAbs : Rat) / x.den :=
          div_lt_div_of_pos_left (Nat.cast_pos.mpr (Nat.pos_of_ne_zero hnum)) hden denHigh
      _ = x := hquotient
  · calc x = (x.num.natAbs : Rat) / x.den := hquotient.symm
      _ ≤ (x.num.natAbs : Rat) / (2 : Rat) ^ x.den.log2 := by gcongr
      _ < (2 : Rat) ^ (x.num.natAbs.log2 + 1) / (2 : Rat) ^ x.den.log2 := by gcongr
      _ = twoPower ((x.num.natAbs.log2 : Int) - (x.den.log2 : Int) + 1) := by
          rw [← hpower, Nat.cast_add, Nat.cast_one, sub_add_eq_add_sub]

/-- The logarithms of numerator and denominator miss that of the quotient by less than one. -/
theorem twoPower_floorLog2_le {x : Rat} (hx : 0 < x) : twoPower (floorLog2 x) ≤ x := by
  unfold floorLog2
  dsimp only
  split
  next h => exact h
  next h => exact (twoPower_bounds hx).1.le

theorem lt_twoPower_floorLog2 {x : Rat} (hx : 0 < x) : x < twoPower (floorLog2 x + 1) := by
  unfold floorLog2
  dsimp only
  split
  next h => exact (twoPower_bounds hx).2
  next h =>
    rw [sub_add_cancel]
    exact not_le.mp h

theorem roundHalfEven_nonneg {x : Rat} (hx : 0 ≤ x) : 0 ≤ roundHalfEven x := by
  have hfloor : 0 ≤ x.floor := Rat.le_floor_iff.mpr hx
  unfold roundHalfEven
  dsimp only
  split
  · exact hfloor
  · split
    · omega
    · split <;> omega

theorem roundHalfEven_le {x : Rat} (hx : 0 ≤ x) : (roundHalfEven x : Rat) ≤ 2 * x := by
  have hfloor : (x.floor : Rat) ≤ x := Rat.floor_le x
  have hnonneg : 0 ≤ x.floor := Rat.le_floor_iff.mpr hx
  unfold roundHalfEven
  dsimp only
  split
  · linarith
  next h =>
    have hhalf : (x.floor : Rat) + 1 / 2 ≤ x := by linarith
    have hcast : (0 : Rat) ≤ x.floor := by exact_mod_cast hnonneg
    split
    · push_cast
      linarith
    · split
      · linarith
      · push_cast
        linarith

theorem half_le_roundHalfEven {x : Rat} (hx : 1 ≤ x) : x / 2 ≤ (roundHalfEven x : Rat) := by
  have hone : (1 : Rat) ≤ x.floor := by exact_mod_cast Rat.le_floor_iff.mpr hx
  have hnext : x < x.floor + 1 := by exact_mod_cast Rat.lt_floor_add_one x
  unfold roundHalfEven
  dsimp only
  split
  · linarith
  · split
    · push_cast
      linarith
    · split
      · linarith
      · push_cast
        linarith

theorem onGrid_nonneg {x : Rat} (hx : 0 ≤ x) : 0 ≤ onGrid x := by
  have hunit := twoPower_pos (spacing x)
  have hround : (0 : Rat) ≤ roundHalfEven (x / twoPower (spacing x)) := by
    exact_mod_cast roundHalfEven_nonneg (div_nonneg hx hunit.le)
  exact mul_nonneg hround hunit.le

theorem onGrid_le {x : Rat} (hx : 0 ≤ x) : onGrid x ≤ 2 * x := by
  have hunit := twoPower_pos (spacing x)
  calc onGrid x ≤ 2 * (x / twoPower (spacing x)) * twoPower (spacing x) :=
        mul_le_mul_of_nonneg_right (roundHalfEven_le (div_nonneg hx hunit.le)) hunit.le
    _ = 2 * x := by rw [mul_assoc, div_mul_cancel₀ _ hunit.ne']

/-- Nothing that the format can hold is rounded to zero. -/
theorem half_le_onGrid {x : Rat} (hx : twoPower (-1074) ≤ x) : x / 2 ≤ onGrid x := by
  have hunit := twoPower_pos (spacing x)
  have hpos : 0 < x := lt_of_lt_of_le (twoPower_pos _) hx
  have hle : twoPower (spacing x) ≤ x := by
    unfold spacing
    rcases max_cases (floorLog2 x - 52) (-1074) with ⟨h, -⟩ | ⟨h, -⟩ <;> rw [h]
    · exact (twoPower_mono (by omega)).trans (twoPower_floorLog2_le hpos)
    · exact hx
  have hone : 1 ≤ x / twoPower (spacing x) := (one_le_div₀ hunit).mpr hle
  calc x / 2 = x / twoPower (spacing x) / 2 * twoPower (spacing x) := by
        rw [div_right_comm, div_mul_cancel₀ _ hunit.ne']
    _ ≤ onGrid x := mul_le_mul_of_nonneg_right (half_le_roundHalfEven hone) hunit.le

def Within (bound : Rat) (x : Binary64) : Prop :=
  ∃ value, x.toRat? = some value ∧ |value| ≤ bound

theorem Within.mono {a b : Rat} {x : Binary64} (h : x.Within a) (hab : a ≤ b) : x.Within b := by
  obtain ⟨value, hv, ha⟩ := h
  exact ⟨value, hv, ha.trans hab⟩

theorem Within.ne_infinite {b : Rat} {x : Binary64} (h : x.Within b) (negative : Bool) :
    x ≠ infinite negative := by
  rintro rfl
  obtain ⟨_, hv, -⟩ := h
  cases hv

theorem size_eq_abs (x : Rat) : (if x < 0 then -x else x) = |x| := by
  split
  next h => rw [abs_of_neg h]
  next h => rw [abs_of_nonneg (not_lt.mp h)]

/-- A value well inside the format is rounded to a number of about its size. -/
theorem within_ofRat {x b : Rat} (h : |x| ≤ b) (hb : 2 * b < limit) :
    (ofRat x).Within (2 * b) := by
  have hpos : 0 ≤ b := (abs_nonneg x).trans h
  have hsize : onGrid |x| ≤ 2 * b := (onGrid_le (abs_nonneg x)).trans (by linarith)
  have hzero : |(0 : Rat)| ≤ 2 * b := by rw [abs_zero]; linarith
  unfold ofRat
  rw [size_eq_abs]
  split
  · exact ⟨0, rfl, hzero⟩
  · dsimp only
    rw [if_neg (not_le.mpr (hsize.trans_lt hb))]
    split
    · split
      · exact ⟨0, rfl, hzero⟩
      · exact ⟨0, rfl, hzero⟩
    · refine ⟨_, rfl, ?_⟩
      have habs := abs_of_nonneg (onGrid_nonneg (abs_nonneg x))
      split
      · rwa [abs_neg, habs]
      · rwa [habs]

theorem within_neg {b : Rat} {x : Binary64} (h : x.Within b) : (neg x).Within b := by
  obtain ⟨value, hv, hb⟩ := h
  cases x with
  | nan => cases hv
  | infinite s => cases hv
  | negativeZero =>
    cases hv
    exact ⟨0, rfl, hb⟩
  | finite a =>
    cases hv
    by_cases h : value = 0
    · rw [neg, if_pos h]
      exact ⟨0, rfl, h ▸ hb⟩
    · rw [neg, if_neg h]
      exact ⟨-value, rfl, by rwa [abs_neg]⟩

theorem within_add {a b : Rat} {x y : Binary64} (hx : x.Within a) (hy : y.Within b)
    (hab : 2 * (a + b) < limit) : (add x y).Within (2 * (a + b)) := by
  obtain ⟨v, hv, ha⟩ := hx
  obtain ⟨w, hw, hb⟩ := hy
  have hsum : |v + w| ≤ a + b := (abs_add_le v w).trans (add_le_add ha hb)
  have hrounded := within_ofRat hsum hab
  have hnonneg : 0 ≤ a + b := (abs_nonneg _).trans hsum
  cases x with
  | nan => cases hv
  | infinite s => cases hv
  | negativeZero =>
    cases hv
    cases y with
    | nan => cases hw
    | infinite t => cases hw
    | negativeZero =>
      cases hw
      exact ⟨0, rfl, by rw [abs_zero]; linarith⟩
    | finite d =>
      cases hw
      exact hrounded
  | finite c =>
    cases hv
    cases y with
    | nan => cases hw
    | infinite t => cases hw
    | negativeZero =>
      cases hw
      exact hrounded
    | finite d =>
      cases hw
      exact hrounded

theorem within_sub {a b : Rat} {x y : Binary64} (hx : x.Within a) (hy : y.Within b)
    (hab : 2 * (a + b) < limit) : (sub x y).Within (2 * (a + b)) :=
  within_add hx (within_neg hy) hab

theorem within_signedZero {b : Rat} (hb : 0 ≤ b) (negative : Bool) :
    (signedZero negative).Within b := by
  have h : |(0 : Rat)| ≤ b := by rwa [abs_zero]
  cases negative with
  | true => exact ⟨0, rfl, h⟩
  | false => exact ⟨0, rfl, h⟩

theorem within_mul {a b : Rat} {x y : Binary64} (hx : x.Within a) (hy : y.Within b)
    (hab : 2 * (a * b) < limit) : (mul x y).Within (2 * (a * b)) := by
  obtain ⟨v, hv, ha⟩ := hx
  obtain ⟨w, hw, hb⟩ := hy
  have hnonneg : 0 ≤ a * b := mul_nonneg ((abs_nonneg v).trans ha) ((abs_nonneg w).trans hb)
  have hproduct : |v * w| ≤ a * b := by
    rw [abs_mul]
    exact mul_le_mul ha hb (abs_nonneg w) ((abs_nonneg v).trans ha)
  have hmul : mul x y =
      if v = 0 ∨ w = 0 then signedZero (x.isNegative != y.isNegative) else ofRat (v * w) := by
    cases x <;> cases y <;> cases hv <;> cases hw <;> rfl
  rw [hmul]
  split
  · exact within_signedZero (by linarith) _
  · exact within_ofRat hproduct hab

theorem div_eq {x y : Binary64} {v w : Rat} (hv : x.toRat? = some v) (hw : y.toRat? = some w)
    (h : w ≠ 0) :
    div x y = if v = 0 then signedZero (x.isNegative != y.isNegative) else ofRat (v / w) := by
  cases x <;> cases y <;> cases hv <;> cases hw <;>
    first
    | exact absurd rfl h
    | simp [div, toRat?, h]

theorem within_div {b w : Rat} {x y : Binary64} (hx : x.Within b) (hy : y.toRat? = some w)
    (hw : 1 ≤ w) (hb : 2 * b < limit) : (div x y).Within (2 * b) := by
  obtain ⟨v, hv, h⟩ := hx
  have hpos : 0 < w := lt_of_lt_of_le one_pos hw
  have hquotient : |v / w| ≤ b := by
    rw [abs_div, abs_of_pos hpos]
    exact (div_le_self (abs_nonneg v) hw).trans h
  rw [div_eq hv hy hpos.ne']
  split
  · exact within_signedZero (by linarith [abs_nonneg v]) _
  · exact within_ofRat hquotient hb

theorem ofInt_ok {n : Int} {b : Rat} (h : |(n : Rat)| ≤ b) (hb : 2 * b < limit) :
    ∃ x, ofInt? n = .ok x ∧ x.Within (2 * b) := by
  have hn := within_ofRat h hb
  refine ⟨ofRat n, ?_, hn⟩
  unfold ofInt?
  split
  next negative h => exact absurd h (hn.ne_infinite negative)
  · rfl

theorem truncate_ok {b : Rat} {x : Binary64} (h : x.Within b) : ∃ n, x.truncate = .ok n := by
  obtain ⟨value, hv, -⟩ := h
  cases x with
  | nan => cases hv
  | infinite s => cases hv
  | negativeZero => exact ⟨_, rfl⟩
  | finite a => exact ⟨_, rfl⟩

namespace SumState

theorem add_ok {b total : Rat} {x : Binary64} (hx : x.Within b)
    (h : 2 * (|total| + b) < limit) :
    ∃ total', add ⟨total, []⟩ x = .ok ⟨total', []⟩ ∧ |total'| ≤ |total| + b := by
  obtain ⟨value, hv, hb⟩ := hx
  have hsum : |total + value| ≤ |total| + b :=
    (abs_add_le total value).trans (add_le_add_right hb _)
  refine ⟨total + value, ?_, hsum⟩
  unfold add
  rw [hv]
  dsimp only
  split
  next negative he => exact absurd he ((within_ofRat hsum h).ne_infinite negative)
  · rfl

/-- A running sum of bounded numbers stays inside the format. -/
theorem fold_ok {b c : Rat} (hc : 2 * c < limit) {xs : List Binary64}
    (hx : ∀ x ∈ xs, x.Within b) {total : Rat} (h : |total| + xs.length * b ≤ c) :
    ∃ total', xs.foldlM add ⟨total, []⟩ = .ok ⟨total', []⟩ := by
  induction xs generalizing total with
  | nil => exact ⟨total, rfl⟩
  | cons x xs ih =>
    have hb : 0 ≤ b := by
      obtain ⟨value, -, hv⟩ := hx x List.mem_cons_self
      exact (abs_nonneg value).trans hv
    have hlength : (0 : Rat) ≤ xs.length * b := mul_nonneg (Nat.cast_nonneg _) hb
    rw [List.length_cons, Nat.cast_add, Nat.cast_one, add_mul, one_mul] at h
    obtain ⟨total', hadd, hle⟩ :=
      add_ok (hx x List.mem_cons_self) (lt_of_le_of_lt (by linarith) hc)
    obtain ⟨total'', hrest⟩ := ih (fun y hy => hx y (List.mem_cons_of_mem _ hy))
      (show |total'| + xs.length * b ≤ c by linarith)
    refine ⟨total'', ?_⟩
    rw [List.foldlM_cons, hadd]
    exact hrest

end SumState

theorem mean_ok {b : Rat} {xs : List Binary64} (hx : ∀ x ∈ xs, x.Within b)
    (hb : 2 * (xs.length * b) < limit) : ∃ y, mean xs = .ok y := by
  have h : |(0 : Rat)| + xs.length * b ≤ xs.length * b := by rw [abs_zero, zero_add]
  obtain ⟨total, hsum⟩ := SumState.fold_ok hb hx h
  have hs : sum xs = .ok (ofRat total) := by
    unfold sum
    rw [hsum]
    rfl
  exact ⟨_, congrArg (Except.map _) hs⟩

theorem ofRat_pos {x : Rat} (h : twoPower (-1074) ≤ x) :
    (∃ size, ofRat x = finite size ∧ x / 2 ≤ size) ∨ ofRat x = infinite false := by
  have hpos : 0 < x := lt_of_lt_of_le (twoPower_pos _) h
  have hgrid := half_le_onGrid h
  unfold ofRat
  rw [size_eq_abs, abs_of_pos hpos, if_neg hpos.ne']
  dsimp only
  split
  · exact Or.inr (by rw [decide_eq_false (not_lt.mpr hpos.le)])
  · have hsize : onGrid x ≠ 0 := by linarith
    rw [if_neg hsize, if_neg (not_lt.mpr hpos.le)]
    exact Or.inl ⟨_, rfl, hgrid⟩

theorem ofRat_infinite {x : Rat} (h : 2 * limit ≤ x) : ofRat x = infinite false := by
  have hlimit : 0 < limit := twoPower_pos _
  have htiny : twoPower (-1074) ≤ limit := twoPower_mono (by omega)
  have hgrid := half_le_onGrid (show twoPower (-1074) ≤ x by linarith)
  have hpos : 0 < x := by linarith
  unfold ofRat
  rw [size_eq_abs, abs_of_pos hpos, if_neg hpos.ne']
  dsimp only
  rw [if_pos (by linarith), decide_eq_false (not_lt.mpr hpos.le)]

end QueryTuning.Binary64

namespace QueryTuning.TimeLimit

open Binary64

/-- A budget that is a limit at all leaves some time. -/
theorem ofMilliseconds_unspent {budget : Int} {limit : TimeLimit}
    (h : ofMilliseconds budget = .ok limit) : limit.isSpent = false := by
  have tiny : twoPower (-1074) ≤ 1 / 2000 :=
    calc twoPower (-1074) ≤ twoPower (-11) := twoPower_mono (by omega)
      _ ≤ 1 / 2000 := by rw [twoPower_eq]; norm_num
  unfold ofMilliseconds at h
  split at h
  · cases h
    rfl
  next hb =>
    have hone : (1 : Rat) ≤ budget := by exact_mod_cast (show 1 ≤ budget by omega)
    unfold ofInt? at h
    rcases ofRat_pos (tiny.trans (by linarith : (1 : Rat) / 2000 ≤ budget)) with
      ⟨size, hs, hle⟩ | hs
    · rw [hs] at h
      cases h
      have hsize : size ≠ 0 := by linarith
      have hquotient : (1 : Rat) / 2000 ≤ size / 1000 := by linarith
      have hdiv : (finite size).div (finite 1000) = ofRat (size / 1000) := by
        rw [div_eq rfl rfl (by norm_num), if_neg hsize]
      unfold isSpent
      dsimp only
      rw [hdiv]
      rcases ofRat_pos (tiny.trans hquotient) with ⟨y, hy, hpos⟩ | hy
      · rw [hy]
        have : 0 < y := by linarith
        simp [le, lt, zero, toRat?, this]
      · rw [hy]
        rfl
    · rw [hs] at h
      cases h

/-- A budget beyond the format is no limit but a fault. -/
theorem ofMilliseconds_too_large {n : Nat} (h : 1025 ≤ n) :
    ofMilliseconds (2 ^ n) = .error .integerTooLarge := by
  have hpos : (0 : Int) < 2 ^ n := by positivity
  have hlarge : 2 * Binary64.limit ≤ ((2 ^ n : Int) : Rat) := by
    rw [Binary64.limit, ← twoPower_succ, ← twoPower_natCast]
    exact twoPower_mono (by omega)
  unfold ofMilliseconds ofInt?
  rw [if_neg (by omega), ofRat_infinite hlarge]
  rfl

end QueryTuning.TimeLimit
