import QueryTuning.Proofs.Query.Cuts
import QueryTuning.Proofs.Query.Shapes

/-!
# What remedies cut out

In a text of ASCII every stretch that a remedy replaces is a cut: the selection keyword
with the one after it, and a hint with the blanks before it. For the hint a blank or the
end of the text has to follow, since nothing is left in its place.
-/

set_option autoImplicit false

namespace QueryTuning.Query

open Pattern Text

structure Spells (word text : List Char) : Prop where
  word_ne_nil : word ≠ []
  word_chars : ∀ c ∈ word, IsAscii c ∧ isWord c = true
  text_ascii : ∀ c ∈ text, IsAscii c
  folded : text.map folded = word.map folded

namespace Spells

variable {word text : List Char}

theorem reads (h : Spells word text) : Reads word text := h.folded

theorem ne_nil (h : Spells word text) : text ≠ [] := h.reads.ne_nil h.word_ne_nil

theorem isWord (h : Spells word text) {c : Char} (hc : c ∈ text) : isWord c = true :=
  h.reads.isWord (fun c hc => (h.word_chars c hc).2) c hc

theorem lastingWords (h : Spells word text) : lastingWords text = lastingWords word := by
  rw [Text.lastingWords, Text.lastingWords, runs_of_all h.ne_nil fun c => h.isWord,
    runs_of_all h.word_ne_nil fun c hc => (h.word_chars c hc).2, List.map_singleton,
    List.map_singleton,
    upper_of_folded h.text_ascii (fun c hc => (h.word_chars c hc).1) h.reads]

theorem not_mem (h : Spells word text) {c : Char} (hc : Text.isWord c = false) : c ∉ text := by
  intro hmem
  simp [h.isWord hmem] at hc

theorem not_startsOutside (h : Spells word text) (rest : List Char) :
    ¬ StartsOutside Text.isWord (text ++ rest) := by
  obtain ⟨c, cs, hcons⟩ := List.exists_cons_of_ne_nil h.ne_nil
  rw [hcons, List.cons_append, startsOutside_cons]
  simp [h.isWord (c := c) (by simp [hcons])]

end Spells

def Wordless (text : List Char) : Prop := ∀ c ∈ text, isWord c = false

theorem wordless_of_blank {text : List Char} (h : ∀ c ∈ text, isBlank c = true) :
    Wordless text :=
  fun c hc => isWord_of_isBlank (h c hc)

theorem not_mem_of_blank {text : List Char} (h : ∀ c ∈ text, isBlank c = true) {c : Char}
    (hc : isBlank c = false) : c ∉ text := by
  intro hmem
  simp [h c hmem] at hc

theorem Wordless.startsOutside {s t : List Char} (hs : Wordless s) (ht : StartsOutside isWord t) :
    StartsOutside isWord (s ++ t) := by
  cases s with
  | nil => exact ht
  | cons c s => exact startsOutside_cons.mpr (hs c (by simp))

theorem Wordless.lastingWords {s : List Char} (hs : Wordless s) (t : List Char) :
    lastingWords (s ++ t) = lastingWords t := by
  induction s with
  | nil => rfl
  | cons c s ih =>
    rw [List.cons_append, lastingWords_cons (hs c (by simp))]
    exact ih fun d hd => hs d (by simp [hd])

theorem lastingWords_after_break {u v : List Char} (h : lastingWords (u ++ '\n' :: v) = []) :
    lastingWords v = [] := by
  rw [lastingWords_append (.inr (startsOutside_cons.mpr (by decide))),
    lastingWords_cons (by decide)] at h
  exact (List.append_eq_nil_iff.mp h).2

theorem split_after {a : Char} {s t u v : List Char} (hs : a ∉ s) (h : s ++ t = u ++ a :: v) :
    ∃ u', t = u' ++ a :: v := by
  rcases List.append_eq_append_iff.mp h with ⟨u', -, ht⟩ | ⟨v', hs', hv⟩
  · exact ⟨u', ht⟩
  · cases v' with
    | nil => exact ⟨[], by simpa using hv.symm⟩
    | cons x v' =>
      obtain rfl : a = x := (List.cons.inj hv).1
      simp [hs'] at hs

variable {c d : Cursor}

theorem mem_ends_noLockHint (hascii : ∀ x ∈ c.rest, IsAscii x) (hd : d ∈ ends noLockHint c) :
    (∀ y, c.last = some y → isWord y = false) ∧ ∃ w b₁ b₂ n b₃,
      Spells "WITH".toList w ∧ Spells "NOLOCK".toList n ∧
      (∀ x ∈ b₁, isBlank x = true) ∧ (∀ x ∈ b₂, isBlank x = true) ∧ (∀ x ∈ b₃, isBlank x = true) ∧
      c.Spans (w ++ (b₁ ++ (['('] ++ (b₂ ++ (n ++ (b₃ ++ [')'])))))) d := by
  obtain ⟨hleft, w, b₁, b₂, n, b₃, h, hspan⟩ := hint_of_mem_ends hd
  rw [hspan.rest] at hascii
  have hwith : Spells "WITH".toList w :=
    ⟨by decide, by decide, fun x hx => hascii x (by simp [hx]), h.opening⟩
  have hnolock : Spells "NOLOCK".toList n :=
    ⟨by decide, by decide, fun x hx => hascii x (by simp [hx]), h.hint⟩
  exact ⟨hleft, w, b₁, b₂, n, b₃, hwith, hnolock, h.gap, h.margin, h.rest, hspan⟩

/-- The words of a hint do not last. -/
theorem lastingWords_hint {w b₁ b₂ n b₃ : List Char} (hw : Spells "WITH".toList w)
    (hn : Spells "NOLOCK".toList n) (hb₁ : ∀ x ∈ b₁, isBlank x = true)
    (hb₂ : ∀ x ∈ b₂, isBlank x = true) (hb₃ : ∀ x ∈ b₃, isBlank x = true) :
    lastingWords (w ++ (b₁ ++ (['('] ++ (b₂ ++ (n ++ (b₃ ++ [')'])))))) = [] := by
  have hclose : Wordless [')'] := by unfold Wordless; decide
  have hopen : Wordless ['('] := by unfold Wordless; decide
  have hclosed : StartsOutside isWord (b₃ ++ [')']) :=
    (wordless_of_blank hb₃).startsOutside (startsOutside_cons.mpr (by decide))
  have hopened : StartsOutside isWord (b₁ ++ (['('] ++ (b₂ ++ (n ++ (b₃ ++ [')']))))) :=
    (wordless_of_blank hb₁).startsOutside (startsOutside_cons.mpr (by decide))
  rw [lastingWords_append (.inr hopened), hw.lastingWords, (wordless_of_blank hb₁).lastingWords,
    hopen.lastingWords, (wordless_of_blank hb₂).lastingWords, lastingWords_append (.inr hclosed),
    hn.lastingWords, (wordless_of_blank hb₃).lastingWords, lastingWords_of_none hclose]
  decide +kernel

def HintsSpaced (text : List Char) : Prop :=
  ∀ c ∈ (Cursor.ofText text).positions, ∀ d ∈ ends noLockHint c, StartsOutside isInk d.rest

instance : DecidablePred HintsSpaced := fun text =>
  inferInstanceAs (Decidable (∀ c ∈ (Cursor.ofText text).positions, ∀ d ∈ ends noLockHint c,
    StartsOutside isInk d.rest))

theorem cut_of_hint {text u : List Char} {h : Hit} (hascii : ∀ x ∈ text, IsAscii x)
    (hspaced : HintsSpaced text) (hspan : (Cursor.ofText text).Spans u h.start)
    (hstop : h.stop ∈ ends noLockWithBlanks h.start) : Cut [] h := by
  -- The stretch is `b₀`, the blanks before the hint, and the hint itself from `m` on.
  obtain ⟨m, hm, hd⟩ := mem_ends_seq.mp hstop
  obtain ⟨b₀, hb₀, hspan₀⟩ := mem_ends_run0.mp hm
  have hreach := hspan.append hspan₀
  have hrest : ∀ x ∈ m.rest, IsAscii x := by
    intro x hx
    have htext : text = u ++ b₀ ++ m.rest := hreach.rest
    exact hascii x (by simp [htext, hx])
  obtain ⟨hleft, w, b₁, b₂, n, b₃, hw, hn, hb₁, hb₂, hb₃, hspan₁⟩ := mem_ends_noLockHint hrest hd
  have hink := hspaced m (Cursor.mem_positions.mpr ⟨_, hreach⟩) h.stop hd
  have htext : h.text = b₀ ++ (w ++ (b₁ ++ (['('] ++ (b₂ ++ (n ++ (b₃ ++ [')'])))))) :=
    (hspan₀.append hspan₁).upTo
  have hwords : lastingWords h.text = [] := by
    rw [htext, (wordless_of_blank hb₀).lastingWords, lastingWords_hint hw hn hb₁ hb₂ hb₃]
  refine ⟨?_, ?_, ?_, ?_, ?_, .inl ⟨rfl, hink⟩⟩
  · have hword : isWord '-' = false := by decide
    have hblank : isBlank '-' = false := by decide
    simp [htext, not_mem_of_blank hb₀ hblank, hw.not_mem hword, not_mem_of_blank hb₁ hblank,
      not_mem_of_blank hb₂ hblank, hn.not_mem hword, not_mem_of_blank hb₃ hblank]
  · rw [hwords, lastingWords_nil]
  · intro u v hlines
    exact lastingWords_after_break (hlines ▸ hwords)
  · cases b₀ with
    | nil =>
      rw [Cursor.spans_nil.mp hspan₀] at hleft
      exact .inl hleft
    | cons x b₀ =>
      rw [htext, List.cons_append, startsOutside_cons]
      exact .inr (isWord_of_isBlank (hb₀ x (by simp)))
  · exact hink.mono fun _ => isInk_of_isWord

theorem cut_of_selection {text u : List Char} {h : Hit} (hascii : ∀ x ∈ text, IsAscii x)
    (hspan : (Cursor.ofText text).Spans u h.start) (hstop : h.stop ∈ ends selectDistinct h.start) :
    Cut "SELECT".toList h := by
  obtain ⟨hleft, hright, s, b, n, hparts, hall⟩ := selection_of_mem_ends hstop
  have htext : h.text = s ++ (b ++ n) := hall.upTo
  have hchars : ∀ y ∈ s ++ (b ++ n), IsAscii y := by
    intro y hy
    have hreach : text = _ := (hspan.append hall).rest
    exact hascii y (by rw [hreach]; simp only [List.mem_append] at hy ⊢; tauto)
  have hselect : Spells "SELECT".toList s :=
    ⟨by decide, by decide, fun y hy => hchars y (by simp [hy]), hparts.select⟩
  have hdistinct : Spells "DISTINCT".toList n :=
    ⟨by decide, by decide, fun y hy => hchars y (by simp [hy]), hparts.distinct⟩
  have hrest : lastingWords (b ++ n) = [] := by
    rw [(wordless_of_blank hparts.gap).lastingWords, hdistinct.lastingWords]
    decide +kernel
  refine ⟨?_, ?_, ?_, .inl hleft, hright, .inr ⟨by decide, by decide, ?_⟩⟩
  · have hword : isWord '-' = false := by decide
    rw [htext, List.mem_append, List.mem_append, not_or, not_or]
    exact ⟨hselect.not_mem hword, not_mem_of_blank hparts.gap (by decide), hdistinct.not_mem hword⟩
  · have hstart : StartsOutside isWord (b ++ n) := by
      obtain ⟨x, xs, rfl⟩ := List.exists_cons_of_ne_nil hparts.apart
      exact startsOutside_cons.mpr (isWord_of_isBlank (hparts.gap x (by simp)))
    rw [htext, lastingWords_append (.inr hstart), hselect.lastingWords, hrest, List.append_nil]
  · intro u v hlines
    have hbreak : '\n' ∉ s := hselect.not_mem (by decide)
    obtain ⟨u', hu'⟩ := split_after hbreak (htext ▸ hlines)
    exact lastingWords_after_break (hu' ▸ hrest)
  · rw [htext]
    exact hselect.not_startsOutside _

end QueryTuning.Query
