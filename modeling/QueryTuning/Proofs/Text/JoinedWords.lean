import Mathlib.Algebra.Ring.Int.Defs
import Mathlib.Data.List.DropRight
import QueryTuning.Proofs.Text.Words

/-!
# Words that become one

Where one text ends in a word and the next begins with one, the two are a single word of the
joined text. The words that last tell so, even if one of the three is dispensable: they weigh
less than those of the two texts.
-/

set_option autoImplicit false

namespace QueryTuning.Text

section

variable {p : Char → Bool} {s t : List Char}

theorem endsOutside_iff : EndsOutside p s ↔ ∀ h : s ≠ [], p (s.getLast h) = false := by
  constructor
  · intro hs h
    exact hs _ (List.getLast?_eq_some_getLast h)
  · intro hs c hc
    have hne : s ≠ [] := by
      rintro rfl
      cases hc
    rw [List.getLast?_eq_some_getLast hne] at hc
    exact Option.some.inj hc ▸ hs hne

theorem endsOutside_rdropWhile (p : Char → Bool) (s : List Char) :
    EndsOutside p (s.rdropWhile p) := by
  rw [endsOutside_iff]
  intro h
  simpa using List.rdropWhile_last_not p s h

theorem rtakeWhile_ne_nil (hs : ¬ EndsOutside p s) : s.rtakeWhile p ≠ [] := by
  rw [Ne, List.rtakeWhile_eq_nil_iff]
  simpa [endsOutside_iff] using hs

theorem runs_of_joined {a b : List Char} (ha : ∀ c ∈ a, p c = true) (hb : ∀ c ∈ b, p c = true)
    (hne : a ++ b ≠ []) (hs : EndsOutside p s) (ht : StartsOutside p t) :
    runs p ((s ++ a) ++ (b ++ t)) = runs p s ++ (a ++ b) :: runs p t := by
  have hall : ∀ c ∈ a ++ b, p c = true := by
    simpa [or_imp, forall_and] using ⟨ha, hb⟩
  have hcut : (s ++ a) ++ (b ++ t) = s ++ ((a ++ b) ++ t) := by simp
  rw [hcut, runs_append (.inl hs), runs_append (.inr ht), runs_of_all hne hall,
    List.singleton_append]

/-- Two runs that meet become one, and all others stay. -/
theorem runs_append_joined (hs : ¬ EndsOutside p s) (ht : ¬ StartsOutside p t) :
    ∃ front a b later, runs p s = front ++ [a] ∧ runs p t = b :: later ∧
      runs p (s ++ t) = front ++ (a ++ b) :: later := by
  have hlast := rtakeWhile_ne_nil hs
  have hcut := List.rdropWhile_append_rtakeWhile (p := p) (l := s)
  have hcut' := List.takeWhile_append_dropWhile (p := p) (l := t)
  have hrun : ∀ c ∈ s.rtakeWhile p, p c = true := fun c => List.mem_rtakeWhile_imp
  have hrun' : ∀ c ∈ t.takeWhile p, p c = true := fun c => List.mem_takeWhile_imp
  have hfront := endsOutside_rdropWhile p s
  have hlater := startsOutside_dropWhile p t
  have hfirst : t.takeWhile p ≠ [] := by
    intro hnone
    rw [hnone, List.nil_append] at hcut'
    exact ht (hcut' ▸ hlater)
  refine ⟨runs p (s.rdropWhile p), s.rtakeWhile p, t.takeWhile p, runs p (t.dropWhile p), ?_, ?_,
    ?_⟩
  · rw [← runs_of_all hlast hrun, ← runs_append (.inl hfront), hcut]
  · rw [← List.singleton_append, ← runs_of_all hfirst hrun', ← runs_append (.inr hlater), hcut']
  · rw [← runs_of_joined hrun hrun' (by simp [hlast]) hfront hlater, hcut, hcut']

end

/-- A weight for words that falls when two of them become one, also where some of the three are
dispensable, so that they are left out and weigh nothing: those have four to eight letters. -/
def weight (words : List (List Char)) : Int :=
  (words.map fun word => 15 - 2 * (word.length : Int)).sum

theorem weight_append (ws vs : List (List Char)) : weight (ws ++ vs) = weight ws + weight vs := by
  simp [weight]

def lastingWord (word : List Char) : List (List Char) :=
  [word].filter fun word => !dispensable.contains word

theorem weight_lastingWord_joined (a b : List Char) :
    weight (lastingWord (a ++ b)) < weight (lastingWord a) + weight (lastingWord b) := by
  have hlength : ∀ word ∈ dispensable, 4 ≤ word.length ∧ word.length ≤ 8 := by decide
  have hjoined : ∀ a ∈ dispensable, ∀ b ∈ dispensable, a ++ b ∉ dispensable := by decide
  have hweight : ∀ word, (word ∈ dispensable ∧ weight (lastingWord word) = 0) ∨
      (word ∉ dispensable ∧ weight (lastingWord word) = 15 - 2 * (word.length : Int)) := by
    intro word
    by_cases hword : word ∈ dispensable <;> simp [lastingWord, weight, hword]
  have hsum : (a ++ b).length = a.length + b.length := List.length_append
  rcases hweight a with ⟨ha, hwa⟩ | ⟨ha, hwa⟩ <;> rcases hweight b with ⟨hb, hwb⟩ | ⟨hb, hwb⟩ <;>
    rcases hweight (a ++ b) with ⟨hab, hwab⟩ | ⟨hab, hwab⟩ <;> rw [hwa, hwb, hwab]
  · exact absurd hab (hjoined a ha b hb)
  · have := hlength a ha
    have := hlength b hb
    omega
  · have := hlength a ha
    have := hlength _ hab
    omega
  · have := hlength a ha
    omega
  · have := hlength b hb
    have := hlength _ hab
    omega
  · have := hlength b hb
    omega
  · have := hlength _ hab
    omega
  · omega

/-- Words that meet get lighter. -/
theorem weight_lastingWords_joined {s t : List Char} (hs : ¬ EndsOutside isWord s)
    (ht : ¬ StartsOutside isWord t) :
    weight (lastingWords (s ++ t)) < weight (lastingWords s) + weight (lastingWords t) := by
  obtain ⟨front, a, b, later, hfront, hlater, hjoined⟩ := runs_append_joined hs ht
  have hmeet := weight_lastingWord_joined (upper a) (upper b)
  have hcons : ∀ run rest, ((run :: rest).map upper).filter (fun w => !dispensable.contains w) =
      lastingWord (upper run) ++ (rest.map upper).filter fun w => !dispensable.contains w := by
    intro run rest
    rw [lastingWord, ← List.filter_append]
    rfl
  rw [lastingWords, lastingWords, lastingWords, hfront, hlater, hjoined]
  simp only [List.map_append, List.filter_append, hcons, weight_append, upper_append,
    List.map_nil, List.filter_nil, List.append_nil]
  omega

structure LighterUnless (P : Prop) (words others : List (List Char)) : Prop where
  same : P → words = others
  lighter : ¬ P → weight words < weight others

namespace LighterUnless

variable {P Q : Prop} {words others : List (List Char)}

theorem eq_iff (h : LighterUnless P words others) : words = others ↔ P := by
  constructor
  · intro heq
    by_contra hP
    have := h.lighter hP
    rw [heq] at this
    omega
  · exact h.same

theorem weight_le (h : LighterUnless P words others) : weight words ≤ weight others := by
  by_cases hP : P
  · exact Int.le_of_eq (congrArg weight (h.same hP))
  · exact Int.le_of_lt (h.lighter hP)

theorem congr (h : LighterUnless P words others) (hPQ : P ↔ Q) : LighterUnless Q words others := by
  rwa [← hPQ]

/-- A text may be put in front, where its last word may meet the first. -/
theorem append_left {s t : List Char} (h : LighterUnless P (lastingWords t) others) :
    LighterUnless ((EndsOutside isWord s ∨ StartsOutside isWord t) ∧ P) (lastingWords (s ++ t))
      (lastingWords s ++ others) := by
  constructor
  · rintro ⟨hapart, hP⟩
    rw [lastingWords_append hapart, h.same hP]
  · intro hfails
    rw [weight_append]
    by_cases hapart : EndsOutside isWord s ∨ StartsOutside isWord t
    · have := h.lighter fun hP => hfails ⟨hapart, hP⟩
      rw [lastingWords_append hapart, weight_append]
      omega
    · have := weight_lastingWords_joined (not_or.mp hapart).1 (not_or.mp hapart).2
      have := h.weight_le
      omega

end LighterUnless

end QueryTuning.Text
