import QueryTuning.Proofs.Text.Ascii
import QueryTuning.Proofs.Text.Runs

/-!
# Words of a query

The words of a text that no remedy takes out, and how to say of a text that all of its
words are left, or fewer.
-/

set_option autoImplicit false

namespace QueryTuning.Text

def dispensable : List (List Char) :=
  ["WITH".toList, "NOLOCK".toList, "DISTINCT".toList]

/-- The words of a text in upper case, without those that remedies take out. -/
def lastingWords (text : List Char) : List (List Char) :=
  ((runs isWord text).map upper).filter fun word => !dispensable.contains word

theorem isInk_of_isWord {c : Char} (h : isWord c = true) : isInk c = true := by
  by_contra hblank
  have := isWord_of_isBlank (c := c) (by simpa [isInk] using hblank)
  simp [h] at this

theorem lastingWords_append {s t : List Char}
    (h : EndsOutside isWord s ∨ StartsOutside isWord t) :
    lastingWords (s ++ t) = lastingWords s ++ lastingWords t := by
  simp [lastingWords, runs_append h]

theorem lastingWords_nil : lastingWords [] = [] := by simp [lastingWords, runs_nil]

theorem lastingWords_cons {c : Char} (hc : isWord c = false) (t : List Char) :
    lastingWords (c :: t) = lastingWords t := by
  rw [lastingWords, runs_cons_of_not hc, lastingWords]

theorem lastingWords_of_none {s : List Char} (h : ∀ c ∈ s, isWord c = false) :
    lastingWords s = [] := by
  simp [lastingWords, runs_of_none h]

theorem lastingWords_tidy (text : List Char) : lastingWords (tidy text) = lastingWords text := by
  rw [lastingWords, runs_tidy fun _ => isInk_of_isWord, lastingWords]

structure LeftIff {α : Type} (P : Prop) (left whole : List α) : Prop where
  all : P → left = whole
  less : ¬ P → left.length < whole.length

namespace LeftIff

variable {α : Type} {P Q : Prop} {a b c : List α}

theorem refl (h : P) (a : List α) : LeftIff P a a := ⟨fun _ => rfl, fun hP => absurd h hP⟩

theorem length_le (h : LeftIff P a b) : a.length ≤ b.length := by
  by_cases hP : P
  · exact Nat.le_of_eq (congrArg List.length (h.all hP))
  · exact Nat.le_of_lt (h.less hP)

theorem eq_iff (h : LeftIff P a b) : a = b ↔ P := by
  constructor
  · intro heq
    by_contra hP
    exact Nat.ne_of_lt (h.less hP) (congrArg List.length heq)
  · exact h.all

theorem congr (h : LeftIff P a b) (hPQ : P ↔ Q) : LeftIff Q a b := by rwa [← hPQ]

theorem append_left (h : LeftIff P a b) (s : List α) : LeftIff P (s ++ a) (s ++ b) := by
  constructor
  · intro hP
    rw [h.all hP]
  · intro hP
    have := h.less hP
    simp only [List.length_append]
    omega

theorem trans (h : LeftIff P b c) (h' : LeftIff Q a b) : LeftIff (P ∧ Q) a c := by
  constructor
  · rintro ⟨hP, hQ⟩
    rw [h'.all hQ, h.all hP]
  · intro hPQ
    have hle := h.length_le
    have hle' := h'.length_le
    by_cases hP : P
    · have := h'.less fun hQ => hPQ ⟨hP, hQ⟩
      omega
    · have := h.less hP
      omega

/-- What stands in front may be lost on top. -/
theorem without_front {s : List α} (h : LeftIff P (s ++ a) b) : LeftIff (s = [] ∧ P) a b := by
  have hfront : LeftIff (s = []) a (s ++ a) := by
    constructor
    · rintro rfl
      rfl
    · intro hs
      have := List.length_pos_iff.mpr hs
      simp only [List.length_append]
      omega
  exact (h.trans hfront).congr And.comm

end LeftIff

end QueryTuning.Text
