import Mathlib.Data.List.Basic
import QueryTuning.Text.Case

/-!
# Characters of ASCII

Facts about all characters of ASCII are facts about 128 numbers. A mark, which is no
letter, has no other form when case is ignored, and a word in any case has one
upper-case form. Blanks are no word characters, in ASCII or outside it.
-/

set_option autoImplicit false

namespace QueryTuning.Text

instance decidableForallMem (P : Char → Prop) [DecidablePred P] (text : List Char) :
    Decidable (∀ c ∈ text, P c) :=
  List.decidableBAll P text

abbrev IsAscii (c : Char) : Prop := c.toNat < 128

theorem of_ascii {P : Char → Prop} (h : ∀ n : Fin 128, P (Char.ofNat n)) {c : Char}
    (hc : IsAscii c) : P c := by
  have hn := h ⟨c.toNat, hc⟩
  simpa using hn

theorem upperChar_ascii {c : Char} (hc : IsAscii c) : upperChar c = [c.toUpper] := by
  rw [upperChar, if_pos hc]

abbrev IsMark (c : Char) : Prop := IsAscii c ∧ c.isAlpha = false

theorem isAlpha_folded {c : Char} (hc : IsAscii c) (hne : folded c ≠ c) :
    (folded c).isAlpha = true :=
  of_ascii (P := fun c => folded c ≠ c → (folded c).isAlpha = true) (by decide) hc hne

def relatives : List Char := ['\u017f', '\u212a', '\u0130', '\u0131']

theorem folded_or_relative {c : Char} (hc : ¬ IsAscii c) : folded c = c ∨ c ∈ relatives := by
  by_cases hmem : c ∈ relatives
  · exact .inr hmem
  · left
    simp only [relatives, List.mem_cons, List.not_mem_nil, or_false, not_or] at hmem
    simp [folded, hc, hmem]

theorem isAlpha_folded_relative {c : Char} (hc : ¬ IsAscii c) (hne : folded c ≠ c) :
    (folded c).isAlpha = true := by
  have hrelatives : ∀ c ∈ relatives, (folded c).isAlpha = true := by decide
  exact hrelatives c ((folded_or_relative hc).resolve_left hne)

theorem folded_eq_mark {x c : Char} (hc : IsMark c) : folded x = folded c ↔ x = c := by
  have hself : folded c = c := by
    by_contra hne
    have halpha : c.isAlpha = true :=
      of_ascii (P := fun c => folded c ≠ c → c.isAlpha = true) (by decide) hc.1 hne
    simp [hc.2] at halpha
  constructor
  · intro h
    by_contra hne
    have hmoved : folded x ≠ x := by
      rw [h, hself]
      exact fun h => hne h.symm
    have halpha : (folded x).isAlpha = true := by
      by_cases hx : IsAscii x
      · exact isAlpha_folded hx hmoved
      · exact isAlpha_folded_relative hx hmoved
    rw [h, hself, hc.2] at halpha
    cases halpha
  · rintro rfl
    rfl

theorem folded_folded {c : Char} (hc : IsAscii c) : folded (folded c) = folded c :=
  of_ascii (P := fun c => folded (folded c) = folded c) (by decide) hc

theorem isAscii_folded {c : Char} (hc : IsAscii c) : IsAscii (folded c) :=
  of_ascii (P := fun c => IsAscii (folded c)) (by decide) hc

theorem toUpper_folded {c : Char} (hc : IsAscii c) : (folded c).toUpper = c.toUpper :=
  of_ascii (P := fun c => (folded c).toUpper = c.toUpper) (by decide) hc

theorem isWord_folded {c : Char} (hc : IsAscii c) : isWord (folded c) = isWord c :=
  of_ascii (P := fun c => isWord (folded c) = isWord c) (by decide) hc

theorem isWord_folded_relative {c : Char} (hc : ¬ IsAscii c) : isWord (folded c) = isWord c := by
  have hrelatives : ∀ c ∈ relatives, isWord (folded c) = isWord c := by decide +kernel
  rcases folded_or_relative hc with hsame | hrelative
  · rw [hsame]
  · exact hrelatives c hrelative

/-- Whether a character belongs to words does not depend on its case. -/
theorem isWord_any_case (c : Char) : isWord (folded c) = isWord c := by
  by_cases hc : IsAscii c
  · exact isWord_folded hc
  · exact isWord_folded_relative hc

theorem isWord_of_folded {s t : List Char} (hs : ∀ c ∈ s, isWord c = true)
    (h : t.map folded = s.map folded) : ∀ c ∈ t, isWord c = true := by
  intro c hc
  have hmem : folded c ∈ s.map folded := h ▸ List.mem_map_of_mem hc
  obtain ⟨d, hd, hfolded⟩ := List.mem_map.mp hmem
  rw [← isWord_any_case, ← hfolded, isWord_any_case, hs d hd]

/-- The upper-case form of an ASCII text depends on its letters only, not on their case. -/
theorem upper_of_folded {s t : List Char} (hs : ∀ c ∈ s, IsAscii c) (ht : ∀ c ∈ t, IsAscii c)
    (h : s.map folded = t.map folded) : upper s = upper t := by
  have hform : ∀ u : List Char, (∀ c ∈ u, IsAscii c) →
      upper u = (u.map folded).map Char.toUpper := by
    intro u hu
    induction u with
    | nil => rfl
    | cons c u ih =>
      have hc : IsAscii c := hu c (by simp)
      have hrest := ih fun d hd => hu d (by simp [hd])
      rw [upper] at hrest ⊢
      rw [List.flatMap_cons, hrest, upperChar_ascii hc]
      simp [toUpper_folded hc]
  rw [hform s hs, hform t ht, h]

/-- Whether a character is a blank does not depend on its case. -/
theorem isBlank_any_case (c : Char) : isBlank (folded c) = isBlank c := by
  by_cases hc : IsAscii c
  · exact of_ascii (P := fun c => isBlank (folded c) = isBlank c) (by decide) hc
  · have hrelatives : ∀ c ∈ relatives, isBlank (folded c) = isBlank c := by decide
    rcases folded_or_relative hc with hsame | hrelative
    · rw [hsame]
    · exact hrelatives c hrelative

def blankCodes : List Nat :=
  List.range' 0x09 5 ++ List.range' 0x1C 5 ++ [0x85, 0xA0, 0x1680] ++ List.range' 0x2000 11 ++
    [0x2028, 0x2029, 0x202F, 0x205F, 0x3000]

theorem mem_blankCodes {c : Char} (h : isBlank c = true) : c.toNat ∈ blankCodes := by
  simp only [isBlank, Bool.or_eq_true, Bool.and_eq_true, decide_eq_true_eq, beq_iff_eq] at h
  simp only [blankCodes, List.mem_append, List.mem_range'_1, List.mem_cons, List.not_mem_nil,
    or_false]
  omega

def blanks : List Char := blankCodes.map Char.ofNat

theorem mem_blanks {c : Char} (h : isBlank c = true) : c ∈ blanks :=
  List.mem_map.mpr ⟨c.toNat, mem_blankCodes h, Char.ofNat_toNat c⟩

theorem isBlank_of_not_mem {c : Char} (h : c ∉ blanks) : isBlank c = false := by
  by_contra hblank
  exact h (mem_blanks (by simpa using hblank))

theorem isWord_of_isBlank {c : Char} (h : isBlank c = true) : isWord c = false := by
  have hblanks : ∀ c ∈ blanks, isWord c = false := by decide +kernel
  exact hblanks c (mem_blanks h)

theorem isBlank_of_isWord {c : Char} (h : isWord c = true) : isBlank c = false := by
  by_contra hblank
  simp [isWord_of_isBlank (by simpa using hblank)] at h

end QueryTuning.Text
