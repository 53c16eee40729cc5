import Mathlib.Data.List.Basic
import QueryTuning.Pattern.Basic
import QueryTuning.Proofs.Text.Ascii
import QueryTuning.Proofs.Text.Runs

/-!
# Where patterns end

The text between two places of one text relates them, and each kind of pattern says
which texts it accepts. For runs of characters and for the shortest stretch up to a
mark it is also said which of the accepted texts is preferred.
-/

set_option autoImplicit false

namespace QueryTuning

namespace Cursor

/-- Going over the text `t` leads from `c` to `d`. -/
structure Spans (c : Cursor) (t : List Char) (d : Cursor) : Prop where
  rest : c.rest = t ++ d.rest
  last : d.last = t.getLast?.or c.last

theorem spans_nil {c d : Cursor} : c.Spans [] d ↔ d = c := by
  constructor
  · rintro ⟨hrest, hlast⟩
    cases c
    cases d
    simp_all
  · rintro rfl
    exact ⟨rfl, rfl⟩

theorem Spans.append {c d e : Cursor} {s t : List Char} (h : c.Spans s d) (h' : d.Spans t e) :
    c.Spans (s ++ t) e := by
  constructor
  · rw [h.rest, h'.rest, List.append_assoc]
  · rw [h'.last, h.last, List.getLast?_append, Option.or_assoc]

theorem spans_append {c e : Cursor} {s t : List Char} :
    c.Spans (s ++ t) e ↔ ∃ d, c.Spans s d ∧ d.Spans t e := by
  constructor
  · rintro ⟨hrest, hlast⟩
    refine ⟨⟨s.getLast?.or c.last, t ++ e.rest⟩, ⟨?_, rfl⟩, ⟨rfl, ?_⟩⟩
    · rw [hrest, List.append_assoc]
    · rw [hlast, List.getLast?_append, Option.or_assoc]
  · rintro ⟨d, h, h'⟩
    exact h.append h'

theorem spans_cons {c e : Cursor} {x : Char} {t : List Char} :
    c.Spans (x :: t) e ↔ ∃ d, c.Spans [x] d ∧ d.Spans t e :=
  spans_append (s := [x])

theorem spans_singleton {c d : Cursor} {x : Char} :
    c.Spans [x] d ↔ ∃ xs, c.rest = x :: xs ∧ d = ⟨some x, xs⟩ := by
  constructor
  · rintro ⟨hrest, hlast⟩
    cases d
    exact ⟨_, hrest, by simpa using hlast⟩
  · rintro ⟨xs, hrest, rfl⟩
    exact ⟨hrest, rfl⟩

theorem mem_positions {c d : Cursor} : d ∈ c.positions ↔ ∃ t, c.Spans t d := by
  obtain ⟨last, rest⟩ := c
  rw [positions]
  induction rest generalizing last with
  | nil =>
    rw [positionsAfter, List.mem_singleton]
    constructor
    · rintro rfl
      exact ⟨[], spans_nil.mpr rfl⟩
    · rintro ⟨t, h⟩
      obtain rfl : t = [] := (List.append_eq_nil_iff.mp h.rest.symm).1
      exact spans_nil.mp h
  | cons x rest ih =>
    rw [positionsAfter, List.mem_cons, ih]
    constructor
    · rintro (rfl | ⟨t, h⟩)
      · exact ⟨[], spans_nil.mpr rfl⟩
      · exact ⟨x :: t, (spans_singleton.mpr ⟨rest, rfl, rfl⟩).append h⟩
    · rintro ⟨t, h⟩
      cases t with
      | nil => exact .inl (spans_nil.mp h)
      | cons y t =>
        obtain ⟨m, hm, ht⟩ := spans_cons.mp h
        obtain ⟨xs, hxs, rfl⟩ := spans_singleton.mp hm
        cases hxs
        exact .inr ⟨t, ht⟩

/-- The last character before a place is that of the text that led there. -/
theorem Spans.last_mem {c d : Cursor} {x : Char} {t : List Char} (h : c.Spans (x :: t) d) :
    ∃ y ∈ x :: t, d.last = some y := by
  refine ⟨t.getLast?.getD x, List.mem_of_getLast? List.getLast?_cons, ?_⟩
  rw [h.last, List.getLast?_cons, Option.some_or]

theorem Spans.upTo {c d : Cursor} {t : List Char} (h : c.Spans t d) : c.upTo d = t := by
  rw [Cursor.upTo, h.rest]
  simp

end Cursor

namespace Pattern

open Text

variable {c d : Cursor} {p q : Pattern} {accepts : Char → Bool}

theorem mem_ends_empty : d ∈ ends empty c ↔ d = c := by simp [ends]

theorem mem_ends_one : d ∈ ends (one accepts) c ↔ ∃ x, accepts x = true ∧ c.Spans [x] d := by
  rw [ends]
  constructor
  · intro h
    split at h
    · simp at h
    next x xs hrest =>
      by_cases hx : accepts x = true
      · rw [if_pos hx, List.mem_singleton] at h
        exact ⟨x, hx, Cursor.spans_singleton.mpr ⟨xs, hrest, h⟩⟩
      · simp [hx] at h
  · rintro ⟨x, hx, h⟩
    obtain ⟨xs, hrest, rfl⟩ := Cursor.spans_singleton.mp h
    simp [hrest, hx]

theorem mem_ends_seq : d ∈ ends (seq p q) c ↔ ∃ m ∈ ends p c, d ∈ ends q m := by
  rw [ends, List.mem_flatMap]

theorem sequence_cons (ps : List Pattern) : sequence (p :: ps) = seq p (sequence ps) := rfl

theorem sequence_nil : sequence [] = empty := rfl

theorem mem_ends_letter {x : Char} :
    d ∈ ends (letter x) c ↔ ∃ y, folded y = folded x ∧ c.Spans [y] d := by
  simp [letter, mem_ends_one]

theorem mem_ends_letters {xs : List Char} :
    d ∈ ends (sequence (xs.map letter)) c ↔ ∃ t, t.map folded = xs.map folded ∧ c.Spans t d := by
  induction xs generalizing c with
  | nil =>
    rw [List.map_nil, sequence_nil, mem_ends_empty]
    constructor
    · rintro rfl
      exact ⟨[], rfl, Cursor.spans_nil.mpr rfl⟩
    · rintro ⟨t, ht, h⟩
      obtain rfl : t = [] := by simpa using ht
      exact Cursor.spans_nil.mp h
  | cons x xs ih =>
    rw [List.map_cons, sequence_cons, mem_ends_seq]
    constructor
    · rintro ⟨m, hm, hd⟩
      obtain ⟨y, hy, hspan⟩ := mem_ends_letter.mp hm
      obtain ⟨t, ht, hrest⟩ := ih.mp hd
      exact ⟨y :: t, by simp [hy, ht], hspan.append hrest⟩
    · rintro ⟨t, ht, h⟩
      cases t with
      | nil => simp at ht
      | cons y t =>
        simp only [List.map_cons, List.cons.injEq] at ht
        obtain ⟨m, hm, hrest⟩ := Cursor.spans_cons.mp h
        exact ⟨m, mem_ends_letter.mpr ⟨y, ht.1, hm⟩, ih.mpr ⟨t, ht.2, hrest⟩⟩

/-- A word accepts the texts that differ from it in the case of letters only. -/
theorem mem_ends_word {s : String} :
    d ∈ ends (word s) c ↔ ∃ t, t.map folded = s.toList.map folded ∧ c.Spans t d :=
  mem_ends_letters

theorem ends_letters {xs t : List Char} (ht : t.map folded = xs.map folded) (h : c.Spans t d) :
    ends (sequence (xs.map letter)) c = [d] := by
  induction xs generalizing c t with
  | nil =>
    obtain rfl : t = [] := by simpa using ht
    rw [Cursor.spans_nil.mp h]
    rfl
  | cons x xs ih =>
    cases t with
    | nil => simp at ht
    | cons y t =>
      simp only [List.map_cons, List.cons.injEq] at ht
      obtain ⟨m, hm, hrest⟩ := Cursor.spans_cons.mp h
      obtain ⟨ys, hc, rfl⟩ := Cursor.spans_singleton.mp hm
      have hone : ends (letter x) c = [⟨some y, ys⟩] := by simp [letter, ends, hc, ht.1]
      rw [List.map_cons, sequence_cons, ends, hone, List.flatMap_cons, List.flatMap_nil,
        List.append_nil, ih ht.2 hrest]

/-- A word that comes next as it is spelled ends in one place. -/
theorem ends_word_spelled {s : String} {rest : List Char}
    (hrest : c.rest = s.toList ++ rest) :
    ends (word s) c = [⟨s.toList.getLast?.or c.last, rest⟩] :=
  ends_letters rfl ⟨hrest, rfl⟩

theorem map_folded_marks {xs t : List Char} (hxs : ∀ x ∈ xs, IsMark x) :
    t.map folded = xs.map folded ↔ t = xs := by
  induction xs generalizing t with
  | nil => simp
  | cons x xs ih =>
    have hx := fun y => folded_eq_mark (x := y) (hxs x (by simp))
    have hrest := fun t => ih (t := t) fun y hy => hxs y (by simp [hy])
    cases t with
    | nil => simp
    | cons y t => simp [hx, hrest]

theorem ends_marks_of_not {s : String} (hs : ∀ x ∈ s.toList, IsMark x)
    (h : ¬ s.toList <+: c.rest) : ends (word s) c = [] := by
  apply List.eq_nil_iff_forall_not_mem.mpr
  intro d hd
  obtain ⟨t, ht, hspan⟩ := mem_ends_word.mp hd
  rw [map_folded_marks hs] at ht
  exact h ⟨d.rest, by rw [hspan.rest, ht]⟩

theorem mem_manyEnds_one {β : Type} {budget : List β} :
    d ∈ manyEnds (ends (one accepts)) budget c ↔
      ∃ t, t.length ≤ budget.length ∧ (∀ x ∈ t, accepts x = true) ∧ c.Spans t d := by
  induction budget generalizing c with
  | nil =>
    simp only [manyEnds, List.mem_singleton, List.length_nil, Nat.le_zero, List.length_eq_zero_iff]
    constructor
    · rintro rfl
      exact ⟨[], rfl, by simp, Cursor.spans_nil.mpr rfl⟩
    · rintro ⟨t, rfl, -, h⟩
      exact Cursor.spans_nil.mp h
  | cons b budget ih =>
    rw [manyEnds, List.mem_append, List.mem_flatMap, List.mem_singleton]
    constructor
    · rintro (⟨m, hm, hd⟩ | rfl)
      · obtain ⟨x, hx, hspan⟩ := mem_ends_one.mp hm
        obtain ⟨t, hlength, ht, hrest⟩ := ih.mp hd
        exact ⟨x :: t, by simpa using hlength, by simpa [hx] using ht, hspan.append hrest⟩
      · exact ⟨[], by simp, by simp, Cursor.spans_nil.mpr rfl⟩
    · rintro ⟨t, hlength, ht, h⟩
      cases t with
      | nil => exact .inr (Cursor.spans_nil.mp h)
      | cons x t =>
        obtain ⟨m, hm, hrest⟩ := Cursor.spans_cons.mp h
        refine .inl ⟨m, mem_ends_one.mpr ⟨x, ht x (by simp), hm⟩, ih.mpr ⟨t, ?_, ?_, hrest⟩⟩
        · simpa using hlength
        · exact fun y hy => ht y (by simp [hy])

theorem mem_ends_run0 :
    d ∈ ends (run0 accepts) c ↔ ∃ t, (∀ x ∈ t, accepts x = true) ∧ c.Spans t d := by
  rw [run0, ends, mem_manyEnds_one]
  constructor
  · rintro ⟨t, -, ht, h⟩
    exact ⟨t, ht, h⟩
  · rintro ⟨t, ht, h⟩
    exact ⟨t, by simp [h.rest], ht, h⟩

theorem mem_ends_run1 : d ∈ ends (run1 accepts) c ↔
    ∃ x t, accepts x = true ∧ (∀ y ∈ t, accepts y = true) ∧ c.Spans (x :: t) d := by
  rw [run1, mem_ends_seq]
  constructor
  · rintro ⟨m, hm, hd⟩
    obtain ⟨x, hx, hspan⟩ := mem_ends_one.mp hm
    obtain ⟨t, ht, hrest⟩ := mem_ends_run0.mp hd
    exact ⟨x, t, hx, ht, hspan.append hrest⟩
  · rintro ⟨x, t, hx, ht, hspan⟩
    obtain ⟨m, hm, hrest⟩ := Cursor.spans_cons.mp hspan
    exact ⟨m, mem_ends_one.mpr ⟨x, hx, hm⟩, mem_ends_run0.mpr ⟨t, ht, hrest⟩⟩

theorem mem_ends_notAfter : d ∈ ends (notAfter accepts) c ↔
    (∀ x, c.last = some x → accepts x = false) ∧ d = c := by
  rw [ends]
  cases c.last <;> simp

theorem mem_ends_notBefore : d ∈ ends (notBefore p) c ↔ ends p c = [] ∧ d = c := by
  rw [ends]
  split <;> simp_all

theorem mem_ends_boundary : d ∈ ends boundary c ↔ atBoundary c = true ∧ d = c := by
  rw [ends]
  split <;> simp_all

/-- In front of a word there is a boundary where no word character precedes it. -/
theorem atBoundary_ahead {w : List Char} (hw : ∀ x ∈ w, isWord x = true) (hne : w ≠ [])
    (h : c.Spans w d) : atBoundary c = true ↔ ∀ y, c.last = some y → isWord y = false := by
  obtain ⟨x, xs, rfl⟩ := List.exists_cons_of_ne_nil hne
  rw [atBoundary, h.rest]
  cases c.last <;> simp [hw x]

/-- Behind a word there is a boundary where no word character follows it. -/
theorem atBoundary_behind {w : List Char} (hw : ∀ x ∈ w, isWord x = true) (hne : w ≠ [])
    (h : c.Spans w d) : atBoundary d = true ↔ StartsOutside isWord d.rest := by
  obtain ⟨x, xs, rfl⟩ := List.exists_cons_of_ne_nil hne
  obtain ⟨y, hy, hlast⟩ := h.last_mem
  rw [atBoundary, hlast]
  cases d.rest <;> simp [hw y hy, StartsOutside]

theorem spans_of_mem_manyEnds {β : Type} {step : Cursor → List Cursor}
    (hstep : ∀ {c d : Cursor}, d ∈ step c → ∃ t, c.Spans t d) {budget : List β}
    (hd : d ∈ manyEnds step budget c) : ∃ t, c.Spans t d := by
  induction budget generalizing c with
  | nil => exact ⟨[], Cursor.spans_nil.mpr (by simpa [manyEnds] using hd)⟩
  | cons b budget ih =>
    rw [manyEnds, List.mem_append, List.mem_flatMap, List.mem_singleton] at hd
    rcases hd with ⟨m, hm, hd⟩ | rfl
    · obtain ⟨s, hs⟩ := hstep hm
      obtain ⟨t, ht⟩ := ih hd
      exact ⟨s ++ t, hs.append ht⟩
    · exact ⟨[], Cursor.spans_nil.mpr rfl⟩

theorem spans_of_mem_fewEnds {β : Type} {step : Cursor → List Cursor}
    (hstep : ∀ {c d : Cursor}, d ∈ step c → ∃ t, c.Spans t d) {budget : List β}
    (hd : d ∈ fewEnds step budget c) : ∃ t, c.Spans t d := by
  induction budget generalizing c with
  | nil => exact ⟨[], Cursor.spans_nil.mpr (by simpa [fewEnds] using hd)⟩
  | cons b budget ih =>
    rw [fewEnds, List.mem_cons, List.mem_flatMap] at hd
    rcases hd with rfl | ⟨m, hm, hd⟩
    · exact ⟨[], Cursor.spans_nil.mpr rfl⟩
    · obtain ⟨s, hs⟩ := hstep hm
      obtain ⟨t, ht⟩ := ih hd
      exact ⟨s ++ t, hs.append ht⟩

/-- A pattern ends at or after the place where it begins. -/
theorem spans_of_mem_ends (hd : d ∈ ends p c) : ∃ t, c.Spans t d := by
  induction p generalizing c d with
  | empty => exact ⟨[], Cursor.spans_nil.mpr (mem_ends_empty.mp hd)⟩
  | one accepts =>
    obtain ⟨x, -, h⟩ := mem_ends_one.mp hd
    exact ⟨[x], h⟩
  | seq p q hp hq =>
    obtain ⟨m, hm, hd⟩ := mem_ends_seq.mp hd
    obtain ⟨s, hs⟩ := hp hm
    obtain ⟨t, ht⟩ := hq hd
    exact ⟨s ++ t, hs.append ht⟩
  | alt p q hp hq =>
    rw [ends, List.mem_append] at hd
    exact hd.elim hp hq
  | many limit p hp =>
    cases limit <;> exact spans_of_mem_manyEnds hp hd
  | few p hp => exact spans_of_mem_fewEnds hp hd
  | notBefore p _ | notAfter _ | boundary | atEnd =>
    have hsame : d = c := by
      rw [ends] at hd
      split at hd <;> simp_all
    exact ⟨[], Cursor.spans_nil.mpr hsame⟩

def after (accepts : Char → Bool) (c : Cursor) : Cursor :=
  ⟨(c.rest.takeWhile accepts).getLast?.or c.last, c.rest.dropWhile accepts⟩

theorem head?_manyEnds_one (last : Option Char) (rest : List Char) :
    (manyEnds (ends (one accepts)) rest ⟨last, rest⟩).head? =
      some (after accepts ⟨last, rest⟩) := by
  induction rest generalizing last with
  | nil => rfl
  | cons x rest ih =>
    rw [manyEnds, ends]
    by_cases hx : accepts x = true
    · simp only [hx, if_true, List.flatMap_cons, List.flatMap_nil, List.append_nil]
      rw [List.head?_append, ih]
      simp [after, hx, List.getLast?_cons]
    · simp [after, hx]

/-- A run of characters is taken as far as it goes. -/
theorem head?_ends_run0 : (ends (run0 accepts) c).head? = some (after accepts c) :=
  head?_manyEnds_one c.last c.rest

theorem head?_ends_seq_run0 (h : ends p c = [d]) :
    (ends (seq p (run0 accepts)) c).head? = some (after accepts d) := by
  rw [ends, h, List.flatMap_cons, List.flatMap_nil, List.append_nil, head?_ends_run0]

theorem ends_run1_of_not {x : Char} {xs : List Char} (hrest : c.rest = x :: xs)
    (hx : accepts x = false) : ends (run1 accepts) c = [] := by
  simp [run1, ends, hrest, hx]

theorem head?_ends_run1 {x : Char} {xs : List Char} (hrest : c.rest = x :: xs)
    (hx : accepts x = true) : (ends (run1 accepts) c).head? = some (after accepts c) := by
  have hone : ends (one accepts) c = [⟨some x, xs⟩] := by simp [ends, hrest, hx]
  rw [run1, head?_ends_seq_run0 hone]
  simp [after, hrest, hx, List.getLast?_cons]

/-- As few characters as possible are any number of them, the smaller numbers first. -/
theorem fewEnds_any (last : Option Char) (rest : List Char) :
    fewEnds (ends (one fun _ => true)) rest ⟨last, rest⟩ = Cursor.positionsAfter last rest := by
  induction rest generalizing last with
  | nil => rfl
  | cons x rest ih =>
    have hone : ends (one fun _ => true) ⟨last, x :: rest⟩ = [⟨some x, rest⟩] := rfl
    rw [fewEnds, hone, List.flatMap_cons, List.flatMap_nil, List.append_nil, ih]
    rfl

theorem ends_few_any : ends (few (one fun _ => true)) c = c.positions :=
  fewEnds_any c.last c.rest

end Pattern

end QueryTuning
