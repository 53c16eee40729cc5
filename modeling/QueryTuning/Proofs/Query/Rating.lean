import QueryTuning.Query.Complexity
import QueryTuning.Query.Issue

/-!
# The rating of a query

A rating lies between 1 and 10 and does not fall when text is put around the query or issues are
added. Words are looked for in the upper-cased text, which may be longer than the query; but
upper-casing respects concatenation, so a word that is found stays found.
-/

set_option autoImplicit false

namespace QueryTuning.Query

open Text

variable {s t word : List Char} {m n : Nat}

theorem upper_within (h : s <:+: t) : upper s <:+: upper t := by
  obtain ⟨front, rest, rfl⟩ := h
  exact ⟨upper front, upper rest, by rw [upper_append, upper_append]⟩

theorem occursIn_mono (h : s <:+: t) (hword : occursIn word s = true) :
    occursIn word t = true :=
  occursIn_iff.mpr ((occursIn_iff.mp hword).trans h)

theorem points_mono {a b : Bool} (h : a = true → b = true) (k : Nat) :
    (if a then k else 0) ≤ if b then k else 0 := by
  cases a with
  | false => exact Nat.zero_le _
  | true => simp [h rfl]

theorem keywordPoints_mono (h : s <:+: t) : keywordPoints s ≤ keywordPoints t := by
  have hone : ∀ w : List Char, occursIn w s = true → occursIn w t = true := fun _ => occursIn_mono h
  have heither : ∀ v w : List Char,
      (occursIn v s || occursIn w s) = true → (occursIn v t || occursIn w t) = true := by
    intro v w hvw
    rw [Bool.or_eq_true] at hvw ⊢
    exact hvw.imp (hone v) (hone w)
  exact Nat.add_le_add (Nat.add_le_add (Nat.add_le_add (Nat.add_le_add
    (points_mono (hone _) 1) (points_mono (heither _ _) 2)) (points_mono (heither _ _) 1))
    (points_mono (hone _) 1)) (points_mono (hone _) 1)

theorem complexityOf_pos (text : List Char) (issues : Nat) : 1 ≤ complexityOf text issues := by
  rw [complexityOf, maxComplexity]
  omega

theorem complexityOf_le (text : List Char) (issues : Nat) :
    complexityOf text issues ≤ maxComplexity :=
  Nat.min_le_left _ _

theorem complexityOf_mono (h : s <:+: t) (hmn : m ≤ n) : complexityOf s m ≤ complexityOf t n := by
  have hlength : s.length / 1000 ≤ t.length / 1000 := Nat.div_le_div_right h.length_le
  have hissues : m / 2 ≤ n / 2 := Nat.div_le_div_right hmn
  have hwords : keywordPoints (upper s) ≤ keywordPoints (upper t) :=
    keywordPoints_mono (upper_within h)
  rw [complexityOf, complexityOf]
  omega

/-- The text counts by its length and by its upper-case form only. -/
theorem complexityOf_congr (hlength : s.length = t.length) (hupper : upper s = upper t) :
    complexityOf s m = complexityOf t m := by
  rw [complexityOf, complexityOf, hlength, hupper]

/-- A rating lies between 1 and 10. It does not fall when text is put before and after the query
and the issues become no fewer, and it is the same for a query of the same length with the same
upper-case form and for as many issues. -/
theorem complexity_is_monotone (query : String) (issues : List Issue) :
    1 ≤ complexity query issues.length ∧ complexity query issues.length ≤ 10 ∧
      (∀ (before after : String) (more : List Issue), issues.length ≤ more.length →
        complexity query issues.length ≤ complexity (before ++ query ++ after) more.length) ∧
      ∀ (other : String) (others : List Issue), query.length = other.length →
        upperCase query = upperCase other → issues.length = others.length →
          complexity query issues.length = complexity other others.length := by
  refine ⟨complexityOf_pos _ _, complexityOf_le _ _, ?_, ?_⟩
  · intro before after more hmore
    refine complexityOf_mono ⟨before.toList, after.toList, ?_⟩ hmore
    rw [String.toList_append, String.toList_append]
  · intro other others hlength hupper hissues
    rw [complexity, complexity, hissues]
    exact complexityOf_congr hlength (String.ofList_injective hupper)

def someIssue : Issue := ⟨.tableScan, "scan", "", .minor⟩

/-- The sharp s has an upper-case form of two letters, and the text around it adds words. -/
theorem longer_query_is_rated_higher :
    upperCase "select groß from a join b" = "SELECT GROSS FROM A JOIN B" ∧
      complexity "select groß from a join b" [someIssue, someIssue].length = 3 ∧
      3 ≤ complexity ("with c as (" ++ "select groß from a join b" ++ ") select 1 union select 2")
        [someIssue, someIssue, someIssue].length ∧
      complexity "SELECT groß FROM a JOIN b" [someIssue, someIssue].length = 3 := by
  have hrating : complexity "select groß from a join b" [someIssue, someIssue].length = 3 := by
    decide +kernel
  obtain ⟨-, -, hmore, hsame⟩ :=
    complexity_is_monotone "select groß from a join b" [someIssue, someIssue]
  refine ⟨by decide +kernel, hrating, ?_, ?_⟩
  · exact hrating ▸ hmore "with c as (" ") select 1 union select 2" [someIssue, someIssue, someIssue]
      (by decide)
  · rw [← hsame "SELECT groß FROM a JOIN b" [someIssue, someIssue] (by decide +kernel)
      (by decide +kernel) rfl, hrating]

end QueryTuning.Query
