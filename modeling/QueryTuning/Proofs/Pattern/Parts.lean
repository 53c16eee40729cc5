import QueryTuning.Proofs.Pattern.Spacing

/-!
# Hits in parts

A pattern in parts is found where each part ends at a place that the next one takes. The
preferred place counts if it is taken; if not, the search falls back to the others.
-/

set_option autoImplicit false

namespace QueryTuning

/-- What is left of a text at a place within it. -/
theorem Cursor.Spans.rest_within {c m d : Cursor} {s u : List Char} (hm : c.Spans s m)
    (hd : c.Spans (s ++ u) d) : m.rest = u ++ d.rest := by
  have hsame := hm.rest.symm.trans hd.rest
  rw [List.append_assoc] at hsame
  exact List.append_cancel_left hsame

theorem Cursor.spans_ofText (s u : List Char) :
    (Cursor.ofText (s ++ u)).Spans s ⟨s.getLast?, u⟩ :=
  ⟨rfl, by simp [Cursor.ofText]⟩

namespace Pattern

open Text

variable {p q : Pattern} {c d m : Cursor} {t : List Char} {accepts : Char → Bool}
  {parts : List Pattern} {h : Hit}

theorem head?_ends_seq (hm : (ends p c).head? = some m) (hd : (ends q m).head? = some d) :
    (ends (seq p q) c).head? = some d := by
  obtain ⟨ms, hms⟩ := List.head?_eq_some_iff.mp hm
  rw [ends, hms, List.flatMap_cons, List.head?_append, hd, Option.some_or]

theorem head?_ends_left (hd : (ends p c).head? = some d) : (ends (alt p q) c).head? = some d := by
  rw [ends, List.head?_append, hd, Option.some_or]

theorem head?_ends_right (hp : ends p c = []) (hd : (ends q c).head? = some d) :
    (ends (alt p q) c).head? = some d := by
  rw [ends, hp, List.nil_append, hd]

theorem ends_one {x : Char} (hx : accepts x = true) (h : c.Spans [x] d) :
    ends (one accepts) c = [d] := by
  obtain ⟨xs, hrest, rfl⟩ := Cursor.spans_singleton.mp h
  simp [ends, hrest, hx]

theorem ends_letter_spelled {x : Char} (h : c.Spans [x] d) : ends (letter x) c = [d] :=
  ends_one (by simp) h

theorem mem_ends_mark {x : Char} (hx : IsMark x) : d ∈ ends (letter x) c ↔ c.Spans [x] d := by
  rw [mem_ends_letter]
  constructor
  · rintro ⟨y, hy, hspan⟩
    obtain rfl := (folded_eq_mark hx).mp hy
    exact hspan
  · exact fun h => ⟨x, rfl, h⟩

theorem head?_ends_one {x : Char} (hx : accepts x = true) (h : c.Spans [x] d) :
    (ends (one accepts) c).head? = some d := by
  rw [ends_one hx h, List.head?_cons]

theorem head?_ends_mark {x : Char} (h : c.Spans [x] d) : (ends (letter x) c).head? = some d :=
  head?_ends_one (by simp) h

/-- A run is taken as a whole. -/
theorem head?_ends_run0_spans (ht : ∀ x ∈ t, accepts x = true) (h : c.Spans t d)
    (hd : StartsOutside accepts d.rest) : (ends (run0 accepts) c).head? = some d := by
  rw [head?_ends_run0, after_of_spans ht h hd]

theorem head?_ends_run1_spans (hne : t ≠ []) (ht : ∀ x ∈ t, accepts x = true) (h : c.Spans t d)
    (hd : StartsOutside accepts d.rest) : (ends (run1 accepts) c).head? = some d := by
  obtain ⟨x, xs, rfl⟩ := List.exists_cons_of_ne_nil hne
  rw [head?_ends_run1 h.rest (ht x (by simp)), after_of_spans ht h hd]

section

variable {α : Type} {k : Cursor → Option α} {r : α}

theorem run_of_head? (hd : (ends p c).head? = some d) (hk : k d = some r) :
    run p c k = some r := by
  obtain ⟨ds, hds⟩ := List.head?_eq_some_iff.mp hd
  rw [run_eq_findSome?, hds, List.findSome?_cons, hk]

theorem run_eq_none (h : ∀ d ∈ ends p c, k d = none) : run p c k = none := by
  rw [run_eq_findSome?, List.findSome?_eq_none_iff]
  exact h

/-- The first of several repetitions is tried before none. -/
theorem manyRun_of_head? {β : Type} {b : β} {budget : List β} (hd : (ends p c).head? = some d)
    (hk : manyRun (run p) budget d k = some r) : manyRun (run p) (b :: budget) c k = some r := by
  rw [manyRun, run_of_head? hd hk]
  rfl

theorem manyRun_of_none {β : Type} {budget : List β}
    (h : budget = [] ∨ ∀ d ∈ ends p c, manyRun (run p) budget.tail d k = none) :
    manyRun (run p) budget c k = k c := by
  cases budget with
  | nil => rfl
  | cons b budget =>
    have hnone := run_eq_none (h.resolve_left (by simp))
    rw [List.tail_cons] at hnone
    rw [manyRun, hnone]
    rfl

end

theorem hitAt?_eq_none (hcuts : cuts parts c = none) : hitAt? parts c = none := by
  rw [hitAt?, hcuts, Option.map_none]

/-- The text up to the preferred place is a hit. -/
theorem exists_hitAt? (ht : c.Spans t d) (hd : (ends p c).head? = some d) :
    ∃ h, hitAt? [p] c = some h ∧ h.text = t ∧ h.stop = d :=
  ⟨⟨c, [d]⟩, by rw [hitAt?_single, hd, Option.map_some], ht.upTo, rfl⟩

def hitsOf (parts : List Pattern) (c : Cursor) : List Hit :=
  (segments parts c).filterMap Segment.hit?

theorem findAll_eq (parts : List Pattern) (text : List Char) :
    findAll parts text = hitsOf parts (Cursor.ofText text) := rfl

theorem hitsOf_hit (hhit : hitAt? parts c = some h) (hshort : h.stop.rest.length < c.rest.length) :
    hitsOf parts c = h :: hitsOf parts h.stop := by
  have hnext : nextSegment parts c = some (.hit h, h.stop) := by
    rw [nextSegment, hhit, Option.filter_some, if_pos (by simpa using hshort)]
  rw [hitsOf, segments_step hnext]
  rfl

theorem hitsOf_kept {x : Char} {xs : List Char} (hrest : c.rest = x :: xs)
    (hcuts : cuts parts c = none) : hitsOf parts c = hitsOf parts ⟨some x, xs⟩ := by
  have hnext : nextSegment parts c = some (.kept x, ⟨some x, xs⟩) := by
    rw [nextSegment, hitAt?_eq_none hcuts, Option.filter_none, hrest]
  rw [hitsOf, segments_step hnext]
  rfl

def ClearOf (parts : List Pattern) (c : Cursor) (t : List Char) : Prop :=
  ∀ s x u m, t = s ++ x :: u → c.Spans s m → cuts parts m = none

theorem ClearOf.tail {x : Char} (h : ClearOf parts c (x :: t)) (hm : c.Spans [x] m) :
    ClearOf parts m t := by
  rintro s y u e rfl hspan
  exact h (x :: s) y u e rfl (hm.append hspan)

/-- Text in which no hit begins is passed over. -/
theorem hitsOf_clear (hclear : ClearOf parts c t) (h : c.Spans t d) :
    hitsOf parts c = hitsOf parts d := by
  induction t generalizing c with
  | nil => rw [Cursor.spans_nil.mp h]
  | cons x t ih =>
    obtain ⟨m, hx, hm⟩ := Cursor.spans_cons.mp h
    obtain ⟨xs, hrest, rfl⟩ := Cursor.spans_singleton.mp hx
    rw [hitsOf_kept hrest (hclear [] x t c rfl (Cursor.spans_nil.mpr rfl))]
    exact ih (hclear.tail hx) hm

theorem hitsOf_skip {P : Char → Prop} (hnone : ∀ c x xs, P x → c.rest = x :: xs →
    cuts parts c = none) (ht : ∀ x ∈ t, P x) (h : c.Spans t d) :
    hitsOf parts c = hitsOf parts d := by
  refine hitsOf_clear ?_ h
  rintro s x u m rfl hspan
  exact hnone m x _ (ht x (by simp)) (hspan.rest_within h)

theorem hitsOf_eq_nil (h : ∀ d t, c.Spans t d → cuts parts d = none) : hitsOf parts c = [] := by
  rw [List.eq_nil_iff_forall_not_mem]
  intro g hg
  obtain ⟨⟨t, ht⟩, hcuts⟩ := foundFrom_of_mem_hits hg
  rw [h g.start t ht] at hcuts
  cases hcuts

theorem find?_hit (hhit : hitAt? parts c = some h) : find? parts c = some h := by
  obtain ⟨last, rest⟩ := c
  rw [find?, Cursor.positions]
  cases rest <;> rw [Cursor.positionsAfter, List.findSome?_cons, hhit]

theorem find?_clear (hclear : ClearOf parts c t) (h : c.Spans t d) :
    find? parts c = find? parts d := by
  induction t generalizing c with
  | nil => rw [Cursor.spans_nil.mp h]
  | cons x t ih =>
    obtain ⟨m, hx, hm⟩ := Cursor.spans_cons.mp h
    obtain ⟨xs, hrest, rfl⟩ := Cursor.spans_singleton.mp hx
    have hmiss : hitAt? parts c = none :=
      hitAt?_eq_none (hclear [] x t c rfl (Cursor.spans_nil.mpr rfl))
    have hstep : find? parts c = find? parts ⟨some x, xs⟩ := by
      rw [find?, Cursor.positions, hrest, Cursor.positionsAfter, List.findSome?_cons, ← hrest, hmiss]
      rfl
    rw [hstep]
    exact ih (hclear.tail hx) hm

theorem cuts_single (h : ends p c = []) : cuts [p] c = none := by
  rw [cuts, run_eq_findSome?, h]
  rfl

end Pattern

end QueryTuning
