import QueryTuning.Proofs.Pattern.Spacing
import QueryTuning.Query.Revision

/-!
# Hints and selections as text

A stretch that the pattern for a NOLOCK hint or for a selection with DISTINCT takes is a few
words in any case with blanks between them. From a given place there is at most one such
stretch, and a stretch cut out of its text is still one.
-/

set_option autoImplicit false

namespace QueryTuning.Query

open Pattern Text

variable {c d m : Cursor} {q : Pattern} {t : List Char}

def Reads (word t : List Char) : Prop := t.map folded = word.map folded

instance (word t : List Char) : Decidable (Reads word t) :=
  inferInstanceAs (Decidable (t.map folded = word.map folded))

namespace Reads

variable {word : List Char}

theorem length_eq (h : Reads word t) : t.length = word.length := by
  have hlength := congrArg List.length h
  rwa [List.length_map, List.length_map] at hlength

theorem isWord (h : Reads word t) (hword : ∀ x ∈ word, isWord x = true) :
    ∀ x ∈ t, isWord x = true :=
  isWord_of_folded hword h

theorem ne_nil (h : Reads word t) (hword : word ≠ []) : t ≠ [] := by
  rintro rfl
  exact hword (by simpa using h.symm)

theorem atBoundary_ahead (h : Reads word t) (hne : word ≠ [])
    (hword : ∀ x ∈ word, Text.isWord x = true) (hspan : c.Spans t m) :
    atBoundary c = true ↔ ∀ y, c.last = some y → Text.isWord y = false :=
  Pattern.atBoundary_ahead (h.isWord hword) (h.ne_nil hne) hspan

theorem atBoundary_behind (h : Reads word t) (hne : word ≠ [])
    (hword : ∀ x ∈ word, Text.isWord x = true) (hspan : c.Spans t m) :
    atBoundary m = true ↔ StartsOutside Text.isWord m.rest :=
  Pattern.atBoundary_behind (h.isWord hword) (h.ne_nil hne) hspan

end Reads

structure IsSelection (s b n : List Char) : Prop where
  select : Reads "SELECT".toList s
  gap : ∀ x ∈ b, isBlank x = true
  apart : b ≠ []
  distinct : Reads "DISTINCT".toList n

structure IsHint (w b₁ b₂ n b₃ : List Char) : Prop where
  opening : Reads "WITH".toList w
  gap : ∀ x ∈ b₁, isBlank x = true
  margin : ∀ x ∈ b₂, isBlank x = true
  hint : Reads "NOLOCK".toList n
  rest : ∀ x ∈ b₃, isBlank x = true

theorem beginsInk_selectDistinct : BeginsInk selectDistinct := ⟨rfl, by decide +kernel⟩

theorem beginsInk_noLockHint : BeginsInk noLockHint := ⟨rfl, by decide +kernel⟩

/-- What stands before and after a selection belongs to no word. -/
theorem selection_of_mem_ends (hd : d ∈ ends selectDistinct c) :
    (∀ y, c.last = some y → isWord y = false) ∧ StartsOutside isWord d.rest ∧
      ∃ s b n, IsSelection s b n ∧ c.Spans (s ++ (b ++ n)) d := by
  simp only [selectDistinct, sequence_cons, mem_ends_seq, sequence_nil, mem_ends_empty] at hd
  obtain ⟨_, hboundary, c₁, hs, c₂, hb, c₃, hlater, _, hboundary', hlast⟩ := hd
  obtain ⟨s, hs, hspan₁⟩ := mem_ends_word.mp hs
  obtain ⟨x, b, hx, hb, hspan₂⟩ := mem_ends_run1.mp hb
  obtain ⟨n, hn, hspan₃⟩ := mem_ends_word.mp hlater
  obtain ⟨hahead, rfl⟩ := mem_ends_boundary.mp hboundary
  obtain ⟨hbehind, rfl⟩ := mem_ends_boundary.mp hboundary'
  subst hlast
  have hselection : IsSelection s (x :: b) n :=
    ⟨hs, List.forall_mem_cons.mpr ⟨hx, hb⟩, by simp, hn⟩
  have hspan := hspan₁.append (hspan₂.append hspan₃)
  exact ⟨(hselection.select.atBoundary_ahead (by decide) (by decide) hspan₁).mp hahead,
    (hselection.distinct.atBoundary_behind (by decide) (by decide) hspan₃).mp hbehind,
    s, x :: b, n, hselection, hspan⟩

/-- What stands before a hint belongs to no word. -/
theorem hint_of_mem_ends (hd : d ∈ ends noLockHint c) :
    (∀ y, c.last = some y → isWord y = false) ∧
      ∃ w b₁ b₂ n b₃, IsHint w b₁ b₂ n b₃ ∧
        c.Spans (w ++ (b₁ ++ (['('] ++ (b₂ ++ (n ++ (b₃ ++ [')'])))))) d := by
  simp only [noLockHint, sequence_cons, mem_ends_seq, sequence_nil, mem_ends_empty] at hd
  obtain ⟨_, hboundary, c₁, hw, c₂, hb₁, c₃, hopen, c₄, hb₂, c₅, hn, c₆, hb₃, c₇, hclose, rfl⟩ := hd
  obtain ⟨w, hw, hspan₁⟩ := mem_ends_word.mp hw
  obtain ⟨b₁, hb₁, hspan₂⟩ := mem_ends_run0.mp hb₁
  obtain ⟨x, hx, hspan₃⟩ := mem_ends_letter.mp hopen
  obtain ⟨b₂, hb₂, hspan₄⟩ := mem_ends_run0.mp hb₂
  obtain ⟨n, hn, hspan₅⟩ := mem_ends_word.mp hn
  obtain ⟨b₃, hb₃, hspan₆⟩ := mem_ends_run0.mp hb₃
  obtain ⟨y, hy, hspan₇⟩ := mem_ends_letter.mp hclose
  obtain rfl : x = '(' := (folded_eq_mark (by decide)).mp hx
  obtain rfl : y = ')' := (folded_eq_mark (by decide)).mp hy
  obtain ⟨hahead, rfl⟩ := mem_ends_boundary.mp hboundary
  have hspan := hspan₁.append (hspan₂.append (hspan₃.append (hspan₄.append (hspan₅.append
    (hspan₆.append hspan₇)))))
  have hhint : IsHint w b₁ b₂ n b₃ := ⟨hw, hb₁, hb₂, hn, hb₃⟩
  exact ⟨(hhint.opening.atBoundary_ahead (by decide) (by decide) hspan₁).mp hahead,
    w, b₁, b₂, n, b₃, hhint, hspan⟩

theorem ends_boundary (hboundary : atBoundary c = true) : ends (seq boundary q) c = ends q c := by
  simp [ends, hboundary]

theorem ends_reading {word : String} (ht : Reads word.toList t) (hspan : c.Spans t m) :
    ends (seq (Pattern.word word) q) c = ends q m := by
  rw [ends, Pattern.word, ends_letters ht hspan, List.flatMap_singleton]

theorem ends_letter {x : Char} (hspan : c.Spans [x] m) : ends (seq (letter x) q) c = ends q m := by
  obtain ⟨xs, hrest, rfl⟩ := Cursor.spans_singleton.mp hspan
  have hone : ends (letter x) c = [⟨some x, xs⟩] := by simp [letter, ends, hrest]
  rw [ends, hone, List.flatMap_singleton]

/-- Blanks before ink end where the ink begins. -/
theorem ends_gap (hq : BeginsInk q) (ht : ∀ x ∈ t, isBlank x = true) (hspan : c.Spans t m)
    (hm : StartsOutside isBlank m.rest) : ends (seq blanks0 q) c = ends q m := by
  rw [ends_blanks0 hq, after_of_spans ht hspan hm]

theorem startsOutside_reading {word : List Char} (ht : Reads word t) (hne : word ≠ [])
    (hword : ∀ x ∈ word, isWord x = true) (rest : List Char) :
    StartsOutside isBlank (t ++ rest) := by
  obtain ⟨x, xs, rfl⟩ := List.exists_cons_of_ne_nil (ht.ne_nil hne)
  rw [List.cons_append, startsOutside_cons]
  by_contra hx
  have hblank := isWord_of_isBlank (by simpa using hx)
  simp [ht.isWord hword x] at hblank

theorem ends_selection {s b n : List Char} (h : IsSelection s b n)
    (hspan : c.Spans (s ++ (b ++ n)) d) (hbehind : ∀ y, c.last = some y → isWord y = false)
    (hahead : StartsOutside isWord d.rest) : ends selectDistinct c = [d] := by
  obtain ⟨c₁, hs, hspan⟩ := Cursor.spans_append.mp hspan
  obtain ⟨c₂, hb, hn⟩ := Cursor.spans_append.mp hspan
  have hafter : after isBlank c₁ = c₂ := after_of_spans h.gap hb
    (hn.rest ▸ startsOutside_reading h.distinct (by decide) (by decide) _)
  have hblank : ¬ StartsOutside isBlank c₁.rest := by
    obtain ⟨x, xs, rfl⟩ := List.exists_cons_of_ne_nil h.apart
    rw [hb.rest, List.cons_append, startsOutside_cons]
    simp [h.gap x]
  have hstart : atBoundary c = true :=
    (h.select.atBoundary_ahead (by decide) (by decide) hs).mpr hbehind
  have hend : atBoundary d = true :=
    (h.distinct.atBoundary_behind (by decide) (by decide) hn).mpr hahead
  rw [selectDistinct, sequence_cons, ends_boundary hstart, sequence_cons, ends_reading h.select hs,
    sequence_cons, ends_blanks1 ⟨rfl, by decide +kernel⟩, if_neg hblank, hafter, sequence_cons, ends_reading h.distinct hn, sequence_cons, ends_boundary hend]
  rfl

theorem ends_hint {w b₁ b₂ n b₃ : List Char} (h : IsHint w b₁ b₂ n b₃)
    (hspan : c.Spans (w ++ (b₁ ++ (['('] ++ (b₂ ++ (n ++ (b₃ ++ [')'])))))) d)
    (hbehind : ∀ y, c.last = some y → isWord y = false) : ends noLockHint c = [d] := by
  obtain ⟨c₁, hw, hspan⟩ := Cursor.spans_append.mp hspan
  obtain ⟨c₂, hb₁, hspan⟩ := Cursor.spans_append.mp hspan
  obtain ⟨c₃, hopen, hspan⟩ := Cursor.spans_append.mp hspan
  obtain ⟨c₄, hb₂, hspan⟩ := Cursor.spans_append.mp hspan
  obtain ⟨c₅, hn, hspan⟩ := Cursor.spans_append.mp hspan
  obtain ⟨c₆, hb₃, hclose⟩ := Cursor.spans_append.mp hspan
  have hopened : StartsOutside isBlank c₂.rest :=
    hopen.rest ▸ startsOutside_cons.mpr (by decide)
  have hnolock : StartsOutside isBlank c₄.rest :=
    hn.rest ▸ startsOutside_reading h.hint (by decide) (by decide) _
  have hclosed : StartsOutside isBlank c₆.rest :=
    hclose.rest ▸ startsOutside_cons.mpr (by decide)
  have hstart : atBoundary c = true :=
    (h.opening.atBoundary_ahead (by decide) (by decide) hw).mpr hbehind
  rw [noLockHint, sequence_cons, ends_boundary hstart, sequence_cons,
    ends_reading h.opening hw, sequence_cons, ends_gap ⟨rfl, by decide +kernel⟩ h.gap hb₁ hopened,
    sequence_cons, ends_letter hopen, sequence_cons,
    ends_gap ⟨rfl, by decide +kernel⟩ h.margin hb₂ hnolock, sequence_cons, ends_reading h.hint hn,
    sequence_cons, ends_gap ⟨rfl, by decide +kernel⟩ h.rest hb₃ hclosed, sequence_cons,
    ends_letter hclose]
  rfl

theorem ignoresSpacing_selectDistinct : IgnoresSpacing selectDistinct := by
  rw [selectDistinct]
  simp only [sequence_cons]
  refine ignoresSpacing_seq ignoresSpacing_boundary (ignoresSpacing_seq
    (ignoresSpacing_word (by decide)) (ignoresSpacing_blanks1 ⟨rfl, by decide +kernel⟩
      (ignoresSpacing_seq (ignoresSpacing_word (by decide))
        (ignoresSpacing_seq ignoresSpacing_boundary (ignoresSpacing_sequence (by simp))))))

theorem ignoresSpacing_noLockHint : IgnoresSpacing noLockHint := by
  rw [noLockHint]
  simp only [sequence_cons]
  exact ignoresSpacing_seq ignoresSpacing_boundary (ignoresSpacing_seq
    (ignoresSpacing_word (by decide)) (ignoresSpacing_blanks0 ⟨rfl, by decide +kernel⟩
      (ignoresSpacing_seq (ignoresSpacing_letter (by decide))
        (ignoresSpacing_blanks0 ⟨rfl, by decide +kernel⟩
          (ignoresSpacing_seq (ignoresSpacing_word (by decide))
            (ignoresSpacing_blanks0 ⟨rfl, by decide +kernel⟩
              (ignoresSpacing_seq (ignoresSpacing_letter (by decide))
                (ignoresSpacing_sequence (by simp)))))))))

end QueryTuning.Query
