import QueryTuning.Index.Recommendation
import QueryTuning.Proofs.Number.Order

/-!
# The impact of a recommended index

An estimate is a whole number between 25 and 65 that grows with the number of columns. A stated
impact counts only above zero, so every impact is positive.
-/

set_option autoImplicit false

namespace QueryTuning.Index

open Binary64

theorem impactPoints_bounds (keys included : Nat) :
    25 ≤ impactPoints keys included ∧ impactPoints keys included ≤ 65 := by
  unfold impactPoints
  omega

theorem impactPoints_mono {keys keys' included included' : Nat} (hkeys : keys ≤ keys')
    (hincluded : included ≤ included') :
    impactPoints keys included ≤ impactPoints keys' included' := by
  unfold impactPoints
  omega

/-- Points are numbers of the format. -/
theorem ofRat_points : ∀ points : Fin 66, ofRat ((points : Nat) : Rat) = finite (points : Nat) := by
  decide +kernel

theorem heuristicImpact_eq (keys included : Nat) :
    heuristicImpact keys included = finite (impactPoints keys included) := by
  obtain ⟨hlow, hhigh⟩ := impactPoints_bounds keys included
  obtain ⟨points, hpoints⟩ := Int.eq_ofNat_of_zero_le (Int.le_trans (by decide) hlow)
  rw [heuristicImpact, hpoints]
  exact ofRat_points ⟨points, by omega⟩

theorem finite_le_iff {x y : Rat} : (finite x).le (finite y) = true ↔ x ≤ y := by
  rw [le_iff (by simp) (by simp), level, level, WithBot.coe_le_coe, WithTop.coe_le_coe]

theorem heuristicImpact_bounds (keys included : Nat) :
    (finite 25).le (heuristicImpact keys included) = true ∧
      (heuristicImpact keys included).le (finite 65) = true := by
  obtain ⟨hlow, hhigh⟩ := impactPoints_bounds keys included
  rw [heuristicImpact_eq, finite_le_iff, finite_le_iff]
  exact ⟨by exact_mod_cast hlow, by exact_mod_cast hhigh⟩

theorem heuristicImpact_mono {keys keys' included included' : Nat} (hkeys : keys ≤ keys')
    (hincluded : included ≤ included') :
    (heuristicImpact keys included).le (heuristicImpact keys' included') = true := by
  rw [heuristicImpact_eq, heuristicImpact_eq, finite_le_iff]
  exact_mod_cast impactPoints_mono hkeys hincluded

theorem heuristicImpact_pos (keys included : Nat) :
    zero.lt (heuristicImpact keys included) = true := by
  obtain ⟨hlow, -⟩ := impactPoints_bounds keys included
  rw [heuristicImpact_eq, zero, lt_iff (by simp) (by simp), level, level, WithBot.coe_lt_coe,
    WithTop.coe_lt_coe]
  exact_mod_cast Int.lt_of_lt_of_le (by decide) hlow

def estimateFor (advisory : Plan.Advisory) : Binary64 :=
  heuristicImpact (advisory.equalityColumns ++ advisory.inequalityColumns).length
    advisory.includeColumns.length

/-- A stated impact counts if it is positive. -/
theorem impactOf_cases (advisory : Plan.Advisory) :
    (∃ x, advisory.impact = some x ∧ zero.lt x = true ∧ impactOf advisory = x) ∨
      (∀ x, advisory.impact = some x → zero.lt x = false) ∧
        impactOf advisory = estimateFor advisory := by
  cases himpact : advisory.impact with
  | none => exact .inr ⟨by simp, by rw [impactOf, himpact]; rfl⟩
  | some x =>
    cases hpos : zero.lt x with
    | true => exact .inl ⟨x, rfl, hpos, by simp [impactOf, himpact, hpos]⟩
    | false =>
      refine .inr ⟨fun y hy => by cases hy; exact hpos, ?_⟩
      simp [impactOf, himpact, hpos, estimateFor]

theorem impactOf_pos (advisory : Plan.Advisory) : zero.lt (impactOf advisory) = true := by
  rcases impactOf_cases advisory with ⟨x, -, hpos, himpact⟩ | ⟨-, himpact⟩
  · rw [himpact, hpos]
  · rw [himpact]
    exact heuristicImpact_pos _ _

end QueryTuning.Index
