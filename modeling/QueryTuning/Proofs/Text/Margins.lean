import Mathlib.Data.List.DropRight
import QueryTuning.Proofs.Text.Ascii
import QueryTuning.Proofs.Text.Runs

/-!
# The margins of a text

Trimming leaves a stretch of the text with no blank at either end, and a text that has none
there stays as it is.
-/

set_option autoImplicit false

namespace QueryTuning.Text

structure IsTrimmed (text : List Char) : Prop where
  first : StartsOutside isBlank text
  last : EndsOutside isBlank text

variable {text whole : List Char}

theorem trimEnd_eq (text : List Char) : trimEnd text = text.rdropWhile isBlank := rfl

theorem isPrefix_trimEnd (text : List Char) : trimEnd text <+: text :=
  List.rdropWhile_prefix isBlank text

theorem startsOutside_of_isPrefix {p : Char → Bool} (h : text <+: whole)
    (hwhole : StartsOutside p whole) : StartsOutside p text := by
  obtain ⟨rest, rfl⟩ := h
  intro c hc
  exact hwhole c (by simp [hc])

theorem endsOutside_of_isSuffix {p : Char → Bool} (h : text <:+ whole)
    (hwhole : EndsOutside p whole) : EndsOutside p text := by
  obtain ⟨front, rfl⟩ := h
  intro c hc
  exact hwhole c (by simp [hc])

theorem endsOutside_trimEnd (text : List Char) : EndsOutside isBlank (trimEnd text) := by
  intro c hc
  have hne : text.rdropWhile isBlank ≠ [] := by
    rintro hnil
    simp [trimEnd_eq, hnil] at hc
  have hlast := List.rdropWhile_last_not isBlank text hne
  rw [trimEnd_eq, List.getLast?_eq_some_getLast hne] at hc
  rw [Option.some.inj hc] at hlast
  simpa using hlast

theorem isTrimmed_trim (text : List Char) : IsTrimmed (trim text) where
  first := startsOutside_of_isPrefix (isPrefix_trimEnd _) (startsOutside_dropWhile isBlank text)
  last := endsOutside_trimEnd (trimStart text)

theorem trimStart_of_startsOutside (h : StartsOutside isBlank text) : trimStart text = text := by
  cases text with
  | nil => rfl
  | cons c cs => rw [trimStart, List.dropWhile_cons_of_neg (by simp [startsOutside_cons.mp h])]

theorem trimEnd_of_endsOutside (h : EndsOutside isBlank text) : trimEnd text = text := by
  rw [trimEnd_eq, List.rdropWhile_eq_self_iff]
  intro hne
  simpa using h _ (List.getLast?_eq_some_getLast hne)

/-- What has no blanks at its ends is left as it is. -/
theorem IsTrimmed.trim_eq (h : IsTrimmed text) : trim text = text := by
  rw [trim, trimStart_of_startsOutside h.first, trimEnd_of_endsOutside h.last]

/-- A text that begins with something else than a blank is trimmed at its end only. -/
theorem trim_cons {x : Char} (hx : isBlank x = false) (xs : List Char) :
    trim (x :: xs) = trimEnd (x :: xs) := by
  rw [trim, trimStart_of_startsOutside (startsOutside_cons.mpr hx)]

theorem trimEnd_cons_ne_nil {x : Char} (hx : isBlank x = false) (xs : List Char) :
    trimEnd (x :: xs) ≠ [] := by
  intro hnil
  have hall := List.rdropWhile_eq_nil_iff.mp hnil x (by simp)
  simp [hx] at hall

theorem trim_isInfix (text : List Char) : trim text <:+: text :=
  (isPrefix_trimEnd _).isInfix.trans (List.dropWhile_suffix isBlank).isInfix

theorem trim_folded (text : List Char) : trim (text.map folded) = (trim text).map folded := by
  have hblank : isBlank ∘ folded = isBlank := funext isBlank_any_case
  simp only [trim, trimEnd, trimStart, List.dropWhile_map, ← List.map_reverse, hblank]

end QueryTuning.Text
