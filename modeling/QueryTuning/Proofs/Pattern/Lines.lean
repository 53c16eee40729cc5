import QueryTuning.Proofs.Pattern.Scan

/-!
# Patterns on one line

Patterns that differ only in what they do at a line break end at the same places of a text that
has none. Parts that cut a text alike at every place have the same hits in it, so searches and
scans then find the same.
-/

set_option autoImplicit false

namespace QueryTuning

namespace Cursor

def OnLastLine (c : Cursor) : Prop := '\n' ∉ c.rest

variable {c d : Cursor} {t : List Char}

theorem OnLastLine.after (hc : c.OnLastLine) (h : c.Spans t d) : d.OnLastLine := by
  rw [OnLastLine, h.rest] at hc
  exact fun hmem => hc (List.mem_append_right t hmem)

end Cursor

namespace Pattern

def AlikeOnLine (p q : Pattern) : Prop := ∀ ⦃c : Cursor⦄, c.OnLastLine → ends p c = ends q c

variable {p q p' q' : Pattern} {c : Cursor}

theorem alikeOnLine_refl (p : Pattern) : AlikeOnLine p p := fun _ _ => rfl

theorem alikeOnLine_one {accepts accepts' : Char → Bool}
    (h : ∀ x, x ≠ '\n' → accepts x = accepts' x) : AlikeOnLine (one accepts) (one accepts') := by
  rintro ⟨last, rest⟩ hc
  cases rest with
  | nil => rfl
  | cons x xs =>
    have hx : x ≠ '\n' := by
      rintro rfl
      exact hc (List.mem_cons_self ..)
    simp only [ends, h x hx]

theorem alikeOnLine_seq (hp : AlikeOnLine p p') (hq : AlikeOnLine q q') :
    AlikeOnLine (seq p q) (seq p' q') := by
  intro c hc
  rw [ends, ends, ← hp hc]
  refine List.flatMap_congr fun d hd => ?_
  obtain ⟨t, ht⟩ := spans_of_mem_ends hd
  exact hq (hc.after ht)

theorem alikeOnLine_sequence {ps qs : List Pattern} (h : List.Forall₂ AlikeOnLine ps qs) :
    AlikeOnLine (sequence ps) (sequence qs) := by
  induction h with
  | nil => exact alikeOnLine_refl _
  | cons hp _ ih => exact alikeOnLine_seq hp ih

theorem alikeOnLine_alt (hp : AlikeOnLine p p') (hq : AlikeOnLine q q') :
    AlikeOnLine (alt p q) (alt p' q') := by
  intro c hc
  rw [ends, ends, hp hc, hq hc]

theorem alikeOnLine_few (hp : AlikeOnLine p p') : AlikeOnLine (few p) (few p') := by
  intro c hc
  rw [ends, ends]
  -- The budget stays the same for both while the place moves on.
  generalize c.rest = budget
  induction budget generalizing c with
  | nil => rfl
  | cons b budget ih =>
    rw [fewEnds, fewEnds, ← hp hc]
    congr 1
    refine List.flatMap_congr fun d hd => ?_
    obtain ⟨t, ht⟩ := spans_of_mem_ends hd
    exact ih (hc.after ht)

/-- As few characters of a line as possible reach every place that is still to come. -/
theorem ends_few_notNewline (hc : c.OnLastLine) : ends (few (one notNewline)) c = c.positions := by
  have hany : AlikeOnLine (one notNewline) (one fun _ => true) :=
    alikeOnLine_one fun x hx => by simpa [notNewline] using hx
  rw [alikeOnLine_few hany hc, ends_few_any]

def atLineEnd : Pattern :=
  alt atEnd (notBefore (notBefore (seq (one fun x => !notNewline x) atEnd)))

theorem alikeOnLine_atLineEnd : AlikeOnLine atLineEnd atEnd := by
  rintro ⟨last, rest⟩ hc
  cases rest with
  | nil => rfl
  | cons x xs =>
    have hx : x ≠ '\n' := by
      rintro rfl
      exact hc (List.mem_cons_self ..)
    simp [atLineEnd, ends, notNewline, hx]

variable {parts parts' : List Pattern}

theorem cuts_of_alike (h : List.Forall₂ AlikeOnLine parts parts') (hc : c.OnLastLine) :
    cuts parts c = cuts parts' c := by
  induction h generalizing c with
  | nil => rfl
  | @cons p p' parts parts' hp _ ih =>
    rw [cuts, cuts, run_eq_findSome?, run_eq_findSome?, hp hc]
    refine findSome?_of_agree fun d hd => ?_
    obtain ⟨t, ht⟩ := spans_of_mem_ends hd
    rw [ih (hc.after ht)]

theorem find?_of_alike (h : List.Forall₂ AlikeOnLine parts parts') (hc : c.OnLastLine) :
    find? parts c = find? parts' c := by
  refine findSome?_of_agree fun d hd => ?_
  obtain ⟨t, ht⟩ := Cursor.mem_positions.mp hd
  rw [hitAt?, hitAt?, cuts_of_alike h (hc.after ht)]

theorem segments_of_alike (h : List.Forall₂ AlikeOnLine parts parts') (hc : c.OnLastLine) :
    segments parts c = segments parts' c := by
  induction hn : c.rest.length using Nat.strongRecOn generalizing c with
  | _ n ih =>
    have hnext : nextSegment parts c = nextSegment parts' c := by
      rw [nextSegment, nextSegment, hitAt?, hitAt?, cuts_of_alike h hc]
    cases hsegment : nextSegment parts c with
    | none =>
      rw [hsegment] at hnext
      rw [segments_of_none hsegment, segments_of_none hnext.symm]
    | some next =>
      obtain ⟨s, d⟩ := next
      rw [hsegment] at hnext
      obtain ⟨t, ht⟩ := (spans_of_nextSegment hsegment).1
      rw [segments_step hsegment, segments_step hnext.symm,
        ih _ (hn ▸ nextSegment_shorter hsegment) (hc.after ht) rfl]

theorem findAll_of_alike {text : List Char} (h : List.Forall₂ AlikeOnLine parts parts')
    (htext : '\n' ∉ text) : findAll parts text = findAll parts' text := by
  rw [findAll, findAll, segments_of_alike h (c := .ofText text) htext]

end Pattern

end QueryTuning
