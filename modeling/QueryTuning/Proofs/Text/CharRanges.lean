import Mathlib.Algebra.Group.Nat.Defs
import Mathlib.Data.List.Chain
import QueryTuning.Text.CharRanges

/-!
# Tables of characters

A search in a table whose entries are in increasing order finds every code within one of them.
-/

set_option autoImplicit false

namespace QueryTuning.Text.CharRanges

def Before (r s : Nat × Nat) : Prop := r.1 ≤ r.2 ∧ r.2 < s.1

instance : DecidableRel Before := fun r s => inferInstanceAs (Decidable (r.1 ≤ r.2 ∧ r.2 < s.1))

instance : IsTrans (Nat × Nat) Before where
  trans _ _ _ h h' := ⟨h.1, Nat.lt_trans (Nat.lt_of_lt_of_le h.2 h'.1) h'.2⟩

/-- A code within an entry between the bounds is found. -/
theorem search_of_entry {table : CharRanges} (hordered : table.toList.Pairwise Before)
    {code steps low high i : Nat} (hi : i < table.size)
    (hcode : table[i].1 ≤ code ∧ code ≤ table[i].2) (hlow : low ≤ i) (hhigh : i < high)
    (hsize : high ≤ table.size) (hsteps : high - low < 2 ^ steps) :
    search table code steps low high = true := by
  induction steps generalizing low high with
  | zero => omega
  | succ steps ih =>
    have hmiddle : (low + high) / 2 < table.size := by omega
    have hapart : ∀ {j k : Nat} (hj : j < table.size) (hk : k < table.size), j < k →
        Before table[j] table[k] := fun hj hk hjk =>
      List.pairwise_iff_getElem.mp hordered _ _ (by simpa using hj) (by simpa using hk) hjk
    rw [Nat.pow_succ] at hsteps
    rw [search, if_pos (by omega)]
    dsimp only
    rw [Array.getElem?_eq_getElem hmiddle]
    dsimp only
    split
    next hless =>
      -- The entry cannot lie at or behind the middle one, which begins too late.
      refine ih hlow (Nat.lt_of_not_le fun hle => ?_) (by omega) (by omega)
      rcases Nat.lt_or_eq_of_le hle with hbehind | hsame
      · have := hapart hmiddle hi hbehind
        unfold Before at this
        omega
      · subst hsame
        omega
    next hless =>
      split
      next hgreater =>
        refine ih (Nat.lt_of_not_le fun hle => ?_) hhigh hsize (by omega)
        rcases Nat.lt_or_eq_of_le hle with hbefore | hsame
        · have := hapart hi hmiddle hbefore
          unfold Before at this
          omega
        · subst hsame
          omega
      next => rfl

theorem contains_of_mem {table : CharRanges} (hordered : table.toList.IsChain Before) {c : Char}
    {r : Nat × Nat} (hr : r ∈ table.toList) (hc : r.1 ≤ c.toNat ∧ c.toNat ≤ r.2) :
    table.contains c = true := by
  obtain ⟨i, hi, rfl⟩ := List.mem_iff_getElem.mp hr
  have hsteps : table.size - 0 < 2 ^ (table.size.log2 + 2) := by
    have hlog := Nat.lt_log2_self (n := table.size)
    rw [Nat.pow_succ]
    omega
  exact search_of_entry (List.isChain_iff_pairwise.mp hordered) (by simpa using hi) hc
    (Nat.zero_le i) (by simpa using hi) (Nat.le_refl _) hsteps

end QueryTuning.Text.CharRanges
