import QueryTuning.Proofs.Query.Shapes
import QueryTuning.Proofs.Text.CharRanges

/-!
# Plain names and digits

A plain name is a word of ASCII letters, digits and underscores that does not begin with a digit.
The decimal digits of all scripts are word characters, and no digit counts as a letter when case is
ignored. In a text made of names and of words without digits every digit follows a word character.
-/

set_option autoImplicit false

namespace QueryTuning.Query

open Text

def isPlainNameChar (c : Char) : Bool := c.isAlphanum || c == '_'

theorem isAscii_of_plain {c : Char} (hc : isPlainNameChar c = true) : IsAscii c := by
  have hclass : isPlainNameChar c = (((decide (65 ≤ c.toNat ∧ c.toNat ≤ 90) ||
      (decide (97 ≤ c.toNat) && decide (c.toNat ≤ 122))) ||
        (decide (48 ≤ c.toNat) && decide (c.toNat ≤ 57))) || c == '_') := rfl
  simp only [hclass, Bool.or_eq_true, Bool.and_eq_true, decide_eq_true_eq, beq_iff_eq] at hc
  rcases hc with hc | rfl
  · change c.toNat < 128
    omega
  · decide

theorem isWord_of_plain {c : Char} (hc : isPlainNameChar c = true) : isWord c = true :=
  of_ascii (P := fun c => isPlainNameChar c = true → isWord c = true) (by decide)
    (isAscii_of_plain hc) hc

theorem isPlainNameChar_of_initial {c : Char} (hc : isAsciiLetterOrUnderscore c = true) :
    isPlainNameChar c = true := by
  simp only [isAsciiLetterOrUnderscore, isPlainNameChar, Char.isAlphanum, Bool.or_eq_true] at hc ⊢
  exact hc.imp_left .inl

theorem isLetterOrUnderscore_of_initial {c : Char} (hc : isAsciiLetterOrUnderscore c = true) :
    isLetterOrUnderscore c = true :=
  of_ascii (P := fun c => isAsciiLetterOrUnderscore c = true → isLetterOrUnderscore c = true)
    (by decide) (isAscii_of_plain (isPlainNameChar_of_initial hc)) hc

structure Identifier where
  first : Char
  more : List Char
  initial : isAsciiLetterOrUnderscore first = true
  others : ∀ x ∈ more, isPlainNameChar x = true

namespace Identifier

variable (name : Identifier)

def text : List Char := name.first :: name.more

theorem text_ne_nil : name.text ≠ [] := List.cons_ne_nil _ _

theorem isWord_text : ∀ x ∈ name.text, isWord x = true := by
  intro x hx
  rcases List.mem_cons.mp hx with rfl | hx
  · exact isWord_of_plain (isPlainNameChar_of_initial name.initial)
  · exact isWord_of_plain (name.others x hx)

theorem runs_text : runs isWord name.text = [name.text] :=
  runs_of_all name.text_ne_nil name.isWord_text

end Identifier

theorem wordRanges_ordered : wordRanges.toList.IsChain CharRanges.Before := by decide +kernel

/-- Each block of ten digits lies within a range of word characters. -/
theorem digits_within_words : (digitZeros.all fun base => wordRanges.toList.any fun r =>
    Nat.ble r.1 base && Nat.ble (base + 9) r.2) = true := by
  decide +kernel

theorem isWord_of_isDecimal {c : Char} (hc : isDecimal c = true) : isWord c = true := by
  by_cases hascii : IsAscii c
  · exact of_ascii (P := fun c => isDecimal c = true → isWord c = true) (by decide) hascii hc
  · rw [isDecimal, digitValue?, if_neg hascii, Option.isSome_map] at hc
    obtain ⟨base, hbase⟩ := Option.isSome_iff_exists.mp hc
    have hblock := List.find?_some hbase
    simp only [Bool.and_eq_true, decide_eq_true_eq] at hblock
    obtain ⟨r, hr, hwithin⟩ := List.any_eq_true.mp
      (List.all_eq_true.mp digits_within_words base (List.mem_of_find?_eq_some hbase))
    simp only [Bool.and_eq_true, Nat.ble_eq] at hwithin
    rw [isWord, if_neg hascii]
    exact CharRanges.contains_of_mem wordRanges_ordered hr ⟨by omega, by omega⟩

theorem folded_of_isDecimal {c : Char} (hc : isDecimal c = true) : folded c = c := by
  by_cases hascii : IsAscii c
  · exact of_ascii (P := fun c => isDecimal c = true → folded c = c) (by decide) hascii hc
  · refine (folded_or_relative hascii).resolve_right fun hrelative => ?_
    have hletters : ∀ c ∈ relatives, isDecimal c = false := by decide
    simp [hletters c hrelative] at hc

def DigitsFollow (t : List Char) : Prop :=
  ∀ s x u, t = s ++ x :: u → isDecimal x = true → ∃ y, s.getLast? = some y ∧ isWord y = true

theorem digitsFollow_of_none {t : List Char} (h : ∀ x ∈ t, isDecimal x = false) :
    DigitsFollow t := by
  rintro s x u rfl hx
  simp [h x (by simp)] at hx

theorem DigitsFollow.append {t t' : List Char} (h : DigitsFollow t) (h' : DigitsFollow t') :
    DigitsFollow (t ++ t') := by
  intro s x u heq hx
  rcases List.append_eq_append_iff.mp heq with ⟨v, rfl, htail⟩ | ⟨v, rfl, htail⟩
  · obtain ⟨y, hy, hword⟩ := h' v x u htail hx
    exact ⟨y, by rw [List.getLast?_append, hy, Option.some_or], hword⟩
  · cases v with
    | nil =>
      obtain ⟨y, hy, -⟩ := h' [] x u (by simpa using htail.symm) hx
      simp at hy
    | cons z v =>
      obtain ⟨rfl, -⟩ := List.cons.inj htail
      exact h s x v rfl hx

theorem Identifier.digitsFollow (name : Identifier) : DigitsFollow name.text := by
  intro s x u heq hx
  cases s with
  | nil =>
    obtain ⟨rfl, -⟩ := List.cons.inj heq
    have hletter := of_ascii
      (P := fun c => isAsciiLetterOrUnderscore c = true → isDecimal c = false) (by decide)
      (isAscii_of_plain (isPlainNameChar_of_initial name.initial)) name.initial
    simp [hletter] at hx
  | cons y s =>
    refine ⟨_, List.getLast?_eq_getLast_of_ne_nil (List.cons_ne_nil y s), ?_⟩
    refine name.isWord_text _ ?_
    rw [heq]
    exact List.mem_append_left _ (List.getLast_mem _)

end QueryTuning.Query
