import QueryTuning.Proofs.Pattern.Edges
import QueryTuning.Proofs.Pattern.Scan

/-!
# Patterns and white space

Blanks before ink are passed over all at once. Two places are respaced forms of one another
if the same stretches of ink lie ahead of them and a word character stands behind both or
behind neither. A pattern that takes blanks in whole runs only ends at respaced places when
it begins at respaced places, and so it is found in a text exactly if it is found in any
text that differs in its runs of blanks.
-/

set_option autoImplicit false

namespace QueryTuning.Pattern

open Text

variable {p q : Pattern} {c c' d m : Cursor} {t : List Char} {accepts : Char → Bool}

theorem spans_after (accepts : Char → Bool) (c : Cursor) :
    c.Spans (c.rest.takeWhile accepts) (after accepts c) :=
  ⟨List.takeWhile_append_dropWhile.symm, rfl⟩

theorem after_of_spans (ht : ∀ x ∈ t, accepts x = true) (hspan : c.Spans t m)
    (hm : StartsOutside accepts m.rest) : after accepts c = m := by
  have hnone : m.rest.takeWhile accepts = [] ∧ m.rest.dropWhile accepts = m.rest := by
    cases hrest : m.rest with
    | nil => exact ⟨rfl, rfl⟩
    | cons x xs =>
      have hx : accepts x = false := startsOutside_cons.mp (hrest ▸ hm)
      simp [hx]
  obtain ⟨hrest, hlast⟩ := hspan
  rw [after, hrest, List.takeWhile_append_of_pos ht, List.dropWhile_append_of_pos ht, hnone.1,
    hnone.2, List.append_nil, ← hlast]

theorem BeginsInk.ends_blank (hq : BeginsInk q) {x : Char} {xs : List Char}
    (hrest : c.rest = x :: xs) (hx : isBlank x = true) : ends q c = [] := by
  apply List.eq_nil_iff_forall_not_mem.mpr
  intro d hd
  obtain ⟨y, ys, hcons, hy, -⟩ := hq.exists_cons hd
  cases hrest.symm.trans hcons
  simp [hx] at hy

theorem manyEnds_blanks (hq : BeginsInk q) (last : Option Char) (rest : List Char) :
    (manyEnds (ends (one isBlank)) rest ⟨last, rest⟩).flatMap (ends q) =
      ends q (after isBlank ⟨last, rest⟩) := by
  induction rest generalizing last with
  | nil => simp [manyEnds, after]
  | cons x rest ih =>
    rw [manyEnds, List.flatMap_append, List.flatMap_singleton]
    by_cases hx : isBlank x = true
    · have hone : ends (one isBlank) ⟨last, x :: rest⟩ = [⟨some x, rest⟩] := by simp [ends, hx]
      have hnone : ends q ⟨last, x :: rest⟩ = [] := hq.ends_blank rfl hx
      rw [hone, List.flatMap_singleton, ih, hnone, List.append_nil]
      simp [after, hx, List.getLast?_cons]
    · have hone : ends (one isBlank) ⟨last, x :: rest⟩ = [] := by simp [ends, hx]
      simp [hone, after, hx]

/-- Only the whole run of blanks leads to ink. -/
theorem ends_blanks0 (hq : BeginsInk q) (c : Cursor) :
    ends (seq blanks0 q) c = ends q (after isBlank c) := by
  rw [ends, blanks0, run0, ends]
  exact manyEnds_blanks hq c.last c.rest

theorem ends_blanks1 (hq : BeginsInk q) (c : Cursor) :
    ends (seq blanks1 q) c =
      if StartsOutside isBlank c.rest then [] else ends q (after isBlank c) := by
  rw [ends, blanks1, run1, ends, List.flatMap_assoc]
  cases hrest : c.rest with
  | nil => simp [ends, hrest, startsOutside_nil]
  | cons x xs =>
    by_cases hx : isBlank x = true
    · have hone : ends (one isBlank) c = [⟨some x, xs⟩] := by simp [ends, hrest, hx]
      have hafter : after isBlank ⟨some x, xs⟩ = after isBlank c := by
        simp [after, hrest, hx, List.getLast?_cons]
      rw [hone, List.flatMap_singleton, if_neg (by simp [startsOutside_cons, hx]), ← hafter,
        ← ends_blanks0 hq, ends, blanks0]
    · simp [ends, hrest, hx, startsOutside_cons]

/-- The same ink lies ahead, with blanks at the same places, and a word character stands behind
both or neither. -/
structure Respaced (c c' : Cursor) : Prop where
  ink : runs isInk c.rest = runs isInk c'.rest
  ahead : StartsOutside isInk c.rest ↔ StartsOutside isInk c'.rest
  behind : c.last.any isWord = c'.last.any isWord

/-- Ink ahead of one place is ahead of the other. -/
theorem Respaced.step (h : Respaced c c') {x : Char} {xs : List Char} (hrest : c.rest = x :: xs)
    (hx : isBlank x = false) :
    ∃ ys, c'.rest = x :: ys ∧ Respaced ⟨some x, xs⟩ ⟨some x, ys⟩ := by
  have hink : isInk x = true := by simp [isInk, hx]
  have hahead : ¬ StartsOutside isInk c'.rest := by
    rw [← h.ahead, hrest, startsOutside_cons]
    simp [hink]
  cases hrest' : c'.rest with
  | nil => exact absurd startsOutside_nil (hrest' ▸ hahead)
  | cons y ys =>
    have hy : isInk y = true := by simpa [hrest', startsOutside_cons] using hahead
    have hruns := h.ink
    rw [hrest, hrest'] at hruns
    obtain ⟨rfl, hrun, hstart⟩ := runs_cons_inj hink hy hruns
    exact ⟨ys, rfl, hrun, hstart, rfl⟩

/-- A word character stands behind the place after some blanks only if there are none. -/
theorem any_isWord_after (c : Cursor) :
    (after isBlank c).last.any isWord =
      if StartsOutside isBlank c.rest then c.last.any isWord else false := by
  have hspan := spans_after isBlank c
  cases hblanks : c.rest.takeWhile isBlank with
  | nil =>
    rw [hblanks] at hspan
    have hsame := Cursor.spans_nil.mp hspan
    have hstart : StartsOutside isBlank c.rest := by
      rw [← hsame]
      exact startsOutside_dropWhile isBlank c.rest
    rw [hsame, if_pos hstart]
  | cons x xs =>
    have hall : ∀ y ∈ x :: xs, isBlank y = true :=
      hblanks ▸ List.all_eq_true.mp List.all_takeWhile
    rw [hblanks] at hspan
    obtain ⟨y, hy, hlast⟩ := hspan.last_mem
    have hstart : ¬ StartsOutside isBlank c.rest := by
      rw [hspan.rest, List.cons_append, startsOutside_cons]
      simp [hall x]
    rw [hlast, if_neg hstart]
    exact isWord_of_isBlank (hall y hy)

theorem startsOutside_after (accepts : Char → Bool) (c : Cursor) :
    StartsOutside accepts (after accepts c).rest :=
  startsOutside_dropWhile accepts c.rest

theorem runs_after (c : Cursor) : runs isInk (after isBlank c).rest = runs isInk c.rest :=
  runs_dropWhile (fun _ => isInk_of_isBlank) c.rest

theorem Respaced.blank_iff (h : Respaced c c') (hink : runs isInk c.rest ≠ []) :
    StartsOutside isBlank c.rest ↔ StartsOutside isBlank c'.rest := by
  rw [startsOutside_isBlank hink, startsOutside_isBlank (h.ink ▸ hink), h.ahead]

/-- Blanks before ink may be passed over at both places. -/
theorem Respaced.skip (h : Respaced c c') (hink : runs isInk c.rest ≠ []) :
    Respaced (after isBlank c) (after isBlank c') where
  ink := by rw [runs_after, runs_after, h.ink]
  ahead := by
    rw [startsOutside_isInk (startsOutside_after isBlank c), runs_after,
      startsOutside_isInk (startsOutside_after isBlank c'), runs_after, h.ink]
  behind := by simp only [any_isWord_after, h.blank_iff hink, h.behind]

def IgnoresSpacing (p : Pattern) : Prop :=
  ∀ ⦃c c' d⦄, Respaced c c' → d ∈ ends p c → ∃ d' ∈ ends p c', Respaced d d'

theorem ignoresSpacing_seq (hp : IgnoresSpacing p) (hq : IgnoresSpacing q) :
    IgnoresSpacing (seq p q) := by
  intro c c' d h hd
  obtain ⟨m, hm, hd⟩ := mem_ends_seq.mp hd
  obtain ⟨m', hm', hmid⟩ := hp h hm
  obtain ⟨d', hd', hend⟩ := hq hmid hd
  exact ⟨d', mem_ends_seq.mpr ⟨m', hm', hd'⟩, hend⟩

theorem ignoresSpacing_sequence {ps : List Pattern} (hps : ∀ p ∈ ps, IgnoresSpacing p) :
    IgnoresSpacing (sequence ps) := by
  induction ps with
  | nil =>
    intro c c' d h hd
    obtain rfl := mem_ends_empty.mp hd
    exact ⟨c', mem_ends_empty.mpr rfl, h⟩
  | cons p ps ih =>
    obtain ⟨hp, hps⟩ := List.forall_mem_cons.mp hps
    exact ignoresSpacing_seq hp (ih hps)

theorem ignoresSpacing_letter {x : Char} (hx : isBlank x = false) : IgnoresSpacing (letter x) := by
  intro c c' d h hd
  obtain ⟨y, hy, hspan⟩ := mem_ends_letter.mp hd
  obtain ⟨xs, hrest, rfl⟩ := Cursor.spans_singleton.mp hspan
  have hink : isBlank y = false := by
    rw [← isBlank_any_case, hy, isBlank_any_case, hx]
  obtain ⟨ys, hrest', hnext⟩ := h.step hrest hink
  exact ⟨⟨some y, ys⟩, mem_ends_letter.mpr ⟨y, hy, Cursor.spans_singleton.mpr ⟨ys, hrest', rfl⟩⟩,
    hnext⟩

theorem ignoresSpacing_word {s : String} (hs : ∀ x ∈ s.toList, isBlank x = false) :
    IgnoresSpacing (word s) := by
  refine ignoresSpacing_sequence fun p hp => ?_
  obtain ⟨x, hx, rfl⟩ := List.mem_map.mp hp
  exact ignoresSpacing_letter (hs x hx)

theorem atBoundary_eq (c : Cursor) :
    atBoundary c = (c.last.any isWord != c.rest.head?.any isWord) := by
  rw [atBoundary]
  cases c.last <;> cases c.rest.head? <;> rfl

theorem any_isWord_of_startsOutside (h : StartsOutside isInk t) : t.head?.any isWord = false := by
  cases t with
  | nil => rfl
  | cons x t =>
    have hx : isBlank x = true := by simpa [isInk] using startsOutside_cons.mp h
    simp [isWord_of_isBlank hx]

theorem ignoresSpacing_boundary : IgnoresSpacing boundary := by
  intro c c' d h hd
  obtain ⟨hboundary, rfl⟩ := mem_ends_boundary.mp hd
  refine ⟨c', mem_ends_boundary.mpr ⟨?_, rfl⟩, h⟩
  have hahead : d.rest.head?.any isWord = c'.rest.head?.any isWord := by
    by_cases hstart : StartsOutside isInk d.rest
    · rw [any_isWord_of_startsOutside hstart, any_isWord_of_startsOutside (h.ahead.mp hstart)]
    · cases hrest : d.rest with
      | nil => exact absurd startsOutside_nil (hrest ▸ hstart)
      | cons x xs =>
        have hx : isBlank x = false := by simpa [hrest, startsOutside_cons, isInk] using hstart
        obtain ⟨ys, hrest', -⟩ := h.step hrest hx
        rw [hrest', List.head?_cons, List.head?_cons]
  rw [atBoundary_eq] at hboundary ⊢
  rw [← h.behind, ← hahead, hboundary]

theorem BeginsInk.runs_ne_nil (hq : BeginsInk q) (hd : d ∈ ends q (after isBlank c)) :
    runs isInk c.rest ≠ [] := by
  obtain ⟨x, xs, hrest, hx, -⟩ := hq.exists_cons hd
  rw [← runs_after, hrest]
  exact runs_cons_ne_nil (by simp [isInk, hx]) xs

theorem ignoresSpacing_blanks0 (hq : BeginsInk q) (h : IgnoresSpacing q) :
    IgnoresSpacing (seq blanks0 q) := by
  intro c c' d hc hd
  rw [ends_blanks0 hq] at hd ⊢
  exact h (hc.skip (hq.runs_ne_nil hd)) hd

theorem ignoresSpacing_blanks1 (hq : BeginsInk q) (h : IgnoresSpacing q) :
    IgnoresSpacing (seq blanks1 q) := by
  intro c c' d hc hd
  rw [ends_blanks1 hq] at hd ⊢
  split at hd
  · simp at hd
  next hblank =>
    have hink := hq.runs_ne_nil hd
    rw [if_neg fun hstart => hblank ((hc.blank_iff hink).mpr hstart)]
    exact h (hc.skip hink) hd

def Occurs (p : Pattern) (c : Cursor) : Prop := ∃ t m d, c.Spans t m ∧ d ∈ ends p m

/-- A place before ink that is reached from one place has a respaced form that is reached from
the other. -/
theorem Respaced.follow (h : Respaced (after isBlank c) (after isBlank c')) (hspan : c.Spans t m)
    {x : Char} {xs : List Char} (hrest : m.rest = x :: xs) (hx : isBlank x = false) :
    ∃ t' m', c'.Spans t' m' ∧ Respaced m m' := by
  have hstays : ∀ {c : Cursor} {y : Char} {ys : List Char}, c.rest = y :: ys →
      isBlank y = false → after isBlank c = c := fun hys hy =>
    after_of_spans (t := []) (by simp) (Cursor.spans_nil.mpr rfl)
      (hys ▸ startsOutside_cons.mpr hy)
  induction t generalizing c c' with
  | nil =>
    obtain rfl := Cursor.spans_nil.mp hspan
    rw [hstays hrest hx] at h
    exact ⟨_, _, spans_after isBlank c', h⟩
  | cons y t ih =>
    obtain ⟨e, he, hlater⟩ := Cursor.spans_cons.mp hspan
    obtain ⟨ys, hys, rfl⟩ := Cursor.spans_singleton.mp he
    by_cases hy : isBlank y = true
    · have hsame : after isBlank c = after isBlank ⟨some y, ys⟩ := by
        simp [after, hys, hy, List.getLast?_cons]
      exact ih (hsame ▸ h) hlater
    · have hy : isBlank y = false := by simpa using hy
      rw [hstays hys hy] at h
      obtain ⟨zs, hzs, hnext⟩ := h.step hys hy
      have hmem : x ∈ ys := by
        have hreach : ys = t ++ m.rest := hlater.rest
        simp [hreach, hrest]
      have hink := runs_ne_nil_of_mem (p := isInk) (by simp [isInk, hx]) hmem
      obtain ⟨t', m', ht', hm'⟩ := ih (hnext.skip hink) hlater
      have hone : (after isBlank c').Spans [y] ⟨some y, zs⟩ :=
        Cursor.spans_singleton.mpr ⟨zs, hzs, rfl⟩
      exact ⟨_, m', (spans_after isBlank c').append (hone.append ht'), hm'⟩

theorem respaced_ofText {s t : List Char} (h : runs isInk s = runs isInk t) :
    Respaced (after isBlank (.ofText s)) (after isBlank (.ofText t)) where
  ink := by rw [runs_after, runs_after]; exact h
  ahead := by
    rw [startsOutside_isInk (startsOutside_after _ _), runs_after,
      startsOutside_isInk (startsOutside_after _ _), runs_after]
    exact h ▸ Iff.rfl
  behind := by simp [any_isWord_after, Cursor.ofText]

/-- Texts with the same stretches of ink have the same patterns in them. -/
theorem Occurs.respaced (hp : IgnoresSpacing p) (hink : BeginsInk p) {s t : List Char}
    (h : runs isInk s = runs isInk t) (hs : Occurs p (.ofText s)) : Occurs p (.ofText t) := by
  obtain ⟨u, m, d, hu, hd⟩ := hs
  obtain ⟨x, xs, hrest, hx, -⟩ := hink.exists_cons hd
  obtain ⟨v, m', hv, hmid⟩ := (respaced_ofText h).follow hu hrest hx
  obtain ⟨d', hd', -⟩ := hp hmid hd
  exact ⟨v, m', d', hv, hd'⟩

theorem occurs_of_find? {h : Hit} (hfind : find? [p] c = some h) : Occurs p c := by
  have hfound := foundFrom_of_find? hfind
  obtain ⟨t, ht⟩ := hfound.reached
  exact ⟨t, h.start, h.stop, ht, List.mem_of_head? hfound.head?_ends⟩

theorem exists_find?_of_occurs (h : Occurs p c) : ∃ hit, find? [p] c = some hit := by
  obtain ⟨t, m, d, ht, hd⟩ := h
  apply Option.isSome_iff_exists.mp
  rw [find?, List.findSome?_isSome_iff]
  refine ⟨m, Cursor.mem_positions.mpr ⟨t, ht⟩, ?_⟩
  rw [hitAt?_single, Option.isSome_map, List.isSome_head?]
  simp [List.ne_nil_of_mem hd]

/-- A scan finds a pattern that occurs, if the pattern takes some text wherever it ends. -/
theorem hitsFrom_ne_nil (hp : ∀ m d, d ∈ ends p m → d.rest.length < m.rest.length)
    (h : Occurs p c) : hitsFrom p c ≠ [] := by
  obtain ⟨t, m, d, ht, hd⟩ := h
  induction c using scan_induction p generalizing t with
  | done c hrest =>
    have hshort := hp m d hd
    have hreach := ht.rest
    rw [hrest] at hreach
    simp [(List.append_eq_nil_iff.mp hreach.symm).2] at hshort
  | hit c e he hshort _ =>
    rw [hitsFrom, segments_hit he hshort]
    simp [Segment.hit?]
  | kept c x xs hrest hmiss ih =>
    have hnone : ends p c = [] := by
      cases hends : ends p c with
      | nil => rfl
      | cons e es => exact absurd (hp c e (by simp [hends])) (hmiss e (by simp [hends]))
    rw [hitsFrom, segments_kept hrest hmiss]
    cases t with
    | nil =>
      obtain rfl := Cursor.spans_nil.mp ht
      simp [hnone] at hd
    | cons y t =>
      obtain ⟨e, he, hlater⟩ := Cursor.spans_cons.mp ht
      obtain ⟨ys, hys, rfl⟩ := Cursor.spans_singleton.mp he
      cases hrest.symm.trans hys
      exact ih t hlater

end QueryTuning.Pattern
