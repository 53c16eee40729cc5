import QueryTuning.Proofs.Number.Magnitude

/-!
# The grid of the format

Rounding keeps the order and leaves alone what the format holds. Both are said of a
rounding to integers first, and then of the grid, whose spacing grows with the size. It
follows that the whole part of a number is not beyond the format, either.
-/

set_option autoImplicit false

namespace QueryTuning.Binary64

theorem roundHalfEven_intCast (n : Int) : roundHalfEven n = n := by
  have hfloor : (n : Rat).floor = n := by simp
  unfold roundHalfEven
  dsimp only
  rw [hfloor, sub_self, if_pos (by norm_num)]

theorem roundHalfEven_mono {x y : Rat} (h : x ≤ y) : roundHalfEven x ≤ roundHalfEven y := by
  have hfloor : x.floor ≤ y.floor := Rat.le_floor_iff.mpr ((Rat.floor_le x).trans h)
  rcases hfloor.eq_or_lt with heq | hlt
  · -- both lie between the same integers, and the part of the second is no less
    unfold roundHalfEven
    rw [heq]
    dsimp only
    split_ifs <;> first | omega | (exfalso; linarith)
  · have hup : roundHalfEven x ≤ x.floor + 1 := by
      unfold roundHalfEven
      dsimp only
      split_ifs <;> omega
    have hdown : y.floor ≤ roundHalfEven y := by
      unfold roundHalfEven
      dsimp only
      split_ifs <;> omega
    omega

theorem twoPower_le_iff {x : Rat} (hx : 0 < x) {e : Int} :
    twoPower e ≤ x ↔ e ≤ floorLog2 x := by
  constructor
  · intro h
    by_contra hnot
    have hmono : twoPower (floorLog2 x + 1) ≤ twoPower e := twoPower_mono (by omega)
    exact absurd (hmono.trans h) (not_le.mpr (lt_twoPower_floorLog2 hx))
  · exact fun h => (twoPower_mono h).trans (twoPower_floorLog2_le hx)

theorem spacing_mono {x y : Rat} (hx : 0 < x) (h : x ≤ y) : spacing x ≤ spacing y := by
  have hlog : floorLog2 x ≤ floorLog2 y :=
    (twoPower_le_iff (hx.trans_le h)).mp ((twoPower_floorLog2_le hx).trans h)
  unfold spacing
  omega

theorem lt_twoPower_spacing {x : Rat} (hx : 0 < x) : x < twoPower (spacing x + 53) := by
  by_contra h
  have hlog := (twoPower_le_iff hx).mp (not_lt.mp h)
  unfold spacing at hlog
  omega

/-- Every power of two from the spacing on is a multiple of it. -/
theorem twoPower_multiple {d e : Int} (h : d ≤ e) :
    ∃ m : Int, twoPower e = m * twoPower d := by
  obtain ⟨n, rfl⟩ : ∃ n : Nat, e = n + d := ⟨(e - d).toNat, by omega⟩
  refine ⟨2 ^ n, ?_⟩
  rw [twoPower_eq, twoPower_eq, zpow_add₀ two_ne_zero, zpow_natCast, Int.cast_pow, Int.cast_ofNat]

theorem onGrid_le_multiple {x : Rat} {m : Int} (h : x ≤ m * twoPower (spacing x)) :
    onGrid x ≤ m * twoPower (spacing x) := by
  have hunit := twoPower_pos (spacing x)
  have hround : roundHalfEven (x / twoPower (spacing x)) ≤ m := by
    rw [← roundHalfEven_intCast m]
    exact roundHalfEven_mono ((div_le_iff₀ hunit).mpr h)
  exact mul_le_mul_of_nonneg_right (Int.cast_le.mpr hround) hunit.le

theorem multiple_le_onGrid {x : Rat} {m : Int} (h : m * twoPower (spacing x) ≤ x) :
    m * twoPower (spacing x) ≤ onGrid x := by
  have hunit := twoPower_pos (spacing x)
  have hround : m ≤ roundHalfEven (x / twoPower (spacing x)) := by
    rw [← roundHalfEven_intCast m]
    exact roundHalfEven_mono ((le_div_iff₀ hunit).mpr h)
  exact mul_le_mul_of_nonneg_right (Int.cast_le.mpr hround) hunit.le

theorem onGrid_le_twoPower {x : Rat} {e : Int} (h : x ≤ twoPower e) (he : spacing x ≤ e) :
    onGrid x ≤ twoPower e := by
  obtain ⟨m, hm⟩ := twoPower_multiple he
  rw [hm] at h ⊢
  exact onGrid_le_multiple h

theorem twoPower_le_onGrid {x : Rat} {e : Int} (h : twoPower e ≤ x) (he : spacing x ≤ e) :
    twoPower e ≤ onGrid x := by
  obtain ⟨m, hm⟩ := twoPower_multiple he
  rw [hm] at h ⊢
  exact multiple_le_onGrid h

theorem onGrid_mono {x y : Rat} (hx : 0 < x) (h : x ≤ y) : onGrid x ≤ onGrid y := by
  rcases (spacing_mono hx h).eq_or_lt with heq | hlt
  · have hunit := twoPower_pos (spacing y)
    unfold onGrid
    rw [heq]
    exact mul_le_mul_of_nonneg_right
      (Int.cast_le.mpr (roundHalfEven_mono (div_le_div_of_nonneg_right h hunit.le))) hunit.le
  · -- a power of two lies between the two, and it is on both grids
    have hy : 0 < y := hx.trans_le h
    have hlog : floorLog2 x < floorLog2 y ∧ spacing y ≤ floorLog2 y := by
      unfold spacing at hlt ⊢
      omega
    have hbelow : x ≤ twoPower (floorLog2 y) := by
      by_contra hnot
      have := (twoPower_le_iff hx).mp (not_le.mp hnot).le
      omega
    calc onGrid x ≤ twoPower (floorLog2 y) := onGrid_le_twoPower hbelow (by omega)
      _ ≤ onGrid y := twoPower_le_onGrid (twoPower_floorLog2_le hy) hlog.2

theorem onGrid_of_multiple {x : Rat} {m e : Int} (hx : x = m * twoPower e)
    (he : spacing x ≤ e) : onGrid x = x := by
  obtain ⟨k, hk⟩ := twoPower_multiple he
  have hmultiple : x = (m * k : Int) * twoPower (spacing x) := by
    rw [Int.cast_mul, mul_assoc, ← hk]
    exact hx
  have hle := onGrid_le_multiple hmultiple.le
  have hge := multiple_le_onGrid hmultiple.ge
  rw [← hmultiple] at hle hge
  exact le_antisymm hle hge

theorem onGrid_zero : onGrid 0 = 0 := by
  unfold onGrid
  dsimp only
  rw [zero_div, ← Int.cast_zero, roundHalfEven_intCast, Int.cast_zero, zero_mul]

/-- What has been rounded is on the grid. -/
theorem onGrid_onGrid {x : Rat} (hx : 0 < x) : onGrid (onGrid x) = onGrid x := by
  rcases (onGrid_nonneg hx.le).eq_or_lt with hzero | hpos
  · rw [← hzero, onGrid_zero]
  have hlog {e : Int} (he : onGrid x < twoPower e) : floorLog2 (onGrid x) < e := by
    by_contra hnot
    exact absurd ((twoPower_le_iff hpos).mpr (not_lt.mp hnot)) (not_le.mpr he)
  have hle : onGrid x ≤ twoPower (spacing x + 53) :=
    onGrid_le_twoPower (lt_twoPower_spacing hx).le (by omega)
  rcases hle.eq_or_lt with heq | hlt
  · -- rounded up to the next power of two, where the spacing is twice as large
    have htop : onGrid x < twoPower (spacing x + 53 + 1) := by
      rw [heq, twoPower_succ]
      linarith [twoPower_pos (spacing x + 53)]
    have hspacing : spacing (onGrid x) ≤ spacing x + 53 := by
      have := hlog htop
      unfold spacing at this ⊢
      omega
    exact onGrid_of_multiple (m := 1) (by rw [Int.cast_one, one_mul]; exact heq) hspacing
  · have hspacing : spacing (onGrid x) ≤ spacing x := by
      have := hlog hlt
      unfold spacing at this ⊢
      omega
    exact onGrid_of_multiple rfl hspacing

structure IsSize (x : Rat) : Prop where
  nonneg : 0 ≤ x
  within : x < limit
  rounded : onGrid x = x

theorem ofRat_cases {x : Rat} (hx : 0 ≤ x) :
    ofRat x = infinite false ∨ ∃ size, ofRat x = finite size ∧ IsSize size := by
  rcases hx.eq_or_lt with rfl | hpos
  · exact Or.inr ⟨0, rfl, le_rfl, twoPower_pos _, onGrid_zero⟩
  unfold ofRat
  rw [size_eq_abs, abs_of_pos hpos, if_neg hpos.ne']
  dsimp only
  rw [decide_eq_false (not_lt.mpr hx), if_neg (not_lt.mpr hx), if_neg (not_lt.mpr hx)]
  split
  · exact Or.inl rfl
  next hlimit =>
    right
    split
    next hzero => exact ⟨0, rfl, le_rfl, twoPower_pos _, onGrid_zero⟩
    next => exact ⟨_, rfl, onGrid_nonneg hx, not_le.mp hlimit, onGrid_onGrid hpos⟩

theorem truncate_finite {x : Rat} (hx : 0 ≤ x) : (finite x).truncate = .ok x.floor := by
  show Except.ok (x.num.tdiv x.den) = Except.ok x.floor
  rw [Int.tdiv_eq_ediv_of_nonneg (Rat.num_nonneg.mpr hx), Rat.floor_def]

namespace IsSize

variable {x : Rat}

/-- The whole part of a size is not beyond the format. -/
theorem ofInt_floor (h : IsSize x) : ∃ y, ofInt? x.floor = .ok y := by
  have hfloor : (0 : Rat) ≤ x.floor := by exact_mod_cast Rat.le_floor_iff.mpr h.nonneg
  have hnot : ofRat x.floor ≠ infinite false := by
    rcases hfloor.eq_or_lt with hzero | hpos
    · rw [← hzero]
      rintro ⟨⟩
    · have hle : onGrid x.floor ≤ x := (onGrid_mono hpos (Rat.floor_le x)).trans h.rounded.le
      unfold ofRat
      rw [size_eq_abs, abs_of_pos hpos, if_neg hpos.ne']
      dsimp only
      rw [if_neg (not_le.mpr (hle.trans_lt h.within))]
      split_ifs <;> rintro ⟨⟩
  rcases ofRat_cases hfloor with hinfinite | ⟨size, hsize, -⟩
  · exact absurd hinfinite hnot
  · exact ⟨finite size, by unfold ofInt?; rw [hsize]⟩

end IsSize

end QueryTuning.Binary64
