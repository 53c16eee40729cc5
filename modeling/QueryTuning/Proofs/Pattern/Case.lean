import QueryTuning.Proofs.Pattern.Scan

/-!
# Patterns that ignore case

If no character class of a pattern tells the cases of a letter of ASCII apart, then the
pattern ends in the same places of a text of ASCII and of that text in lower case. So do
searches and scans, and a replacement is then made in the same places.
-/

set_option autoImplicit false

namespace QueryTuning

open Text

namespace Cursor

def folded (c : Cursor) : Cursor := ⟨c.last.map Text.folded, c.rest.map Text.folded⟩

structure InAscii (c : Cursor) : Prop where
  last : ∀ x, c.last = some x → IsAscii x
  rest : ∀ x ∈ c.rest, IsAscii x

variable {c d : Cursor} {t : List Char}

theorem inAscii_ofText (h : ∀ x ∈ t, IsAscii x) : (Cursor.ofText t).InAscii :=
  ⟨by simp [ofText], h⟩

theorem ofText_folded (t : List Char) : Cursor.ofText (t.map Text.folded) = (ofText t).folded := rfl

theorem InAscii.after (hc : c.InAscii) (h : c.Spans t d) : d.InAscii := by
  have hrest : ∀ x ∈ t ++ d.rest, IsAscii x := h.rest ▸ hc.rest
  constructor
  · intro x hx
    rw [h.last] at hx
    rcases Option.or_eq_some_iff.mp hx with hx | ⟨-, hx⟩
    · exact hrest x (by simp [List.mem_of_getLast? hx])
    · exact hc.last x hx
  · exact fun x hx => hrest x (by simp [hx])

theorem positions_folded (c : Cursor) : c.folded.positions = c.positions.map folded := by
  obtain ⟨last, rest⟩ := c
  rw [positions, positions]
  dsimp only [folded]
  induction rest generalizing last with
  | nil => rfl
  | cons x rest ih => simp [positionsAfter, folded, ← ih (some x)]

theorem upTo_folded (c d : Cursor) : c.folded.upTo d.folded = (c.upTo d).map Text.folded := by
  simp [upTo, folded, List.map_take]

end Cursor

namespace Pattern

def CaseBlind (accepts : Char → Bool) : Prop := ∀ x, IsAscii x → accepts (folded x) = accepts x

@[simp]
def IgnoresCase : Pattern → Prop
  | one accepts | notAfter accepts => CaseBlind accepts
  | seq p q | alt p q => IgnoresCase p ∧ IgnoresCase q
  | many _ p | few p | notBefore p => IgnoresCase p
  | empty | boundary | atEnd => True

variable {p : Pattern} {c : Cursor}

theorem manyEnds_folded {β γ : Type} {budget : List β} {other : List γ}
    (hlength : budget.length = other.length)
    (hstep : ∀ {c : Cursor}, c.InAscii → ends p c.folded = (ends p c).map Cursor.folded)
    (hc : c.InAscii) :
    manyEnds (ends p) budget c.folded = (manyEnds (ends p) other c).map Cursor.folded := by
  induction budget generalizing c other with
  | nil =>
    obtain rfl : other = [] := List.eq_nil_of_length_eq_zero hlength.symm
    rfl
  | cons b budget ih =>
    obtain ⟨b', other, rfl⟩ := List.exists_cons_of_length_pos (l := other) (by simp [← hlength])
    rw [manyEnds, manyEnds, hstep hc, List.flatMap_map, List.map_append, List.map_flatMap]
    congr 1
    refine List.flatMap_congr fun d hd => ?_
    obtain ⟨t, ht⟩ := spans_of_mem_ends hd
    exact ih (by simpa using hlength) (hc.after ht)

theorem fewEnds_folded {β γ : Type} {budget : List β} {other : List γ}
    (hlength : budget.length = other.length)
    (hstep : ∀ {c : Cursor}, c.InAscii → ends p c.folded = (ends p c).map Cursor.folded)
    (hc : c.InAscii) :
    fewEnds (ends p) budget c.folded = (fewEnds (ends p) other c).map Cursor.folded := by
  induction budget generalizing c other with
  | nil =>
    obtain rfl : other = [] := List.eq_nil_of_length_eq_zero hlength.symm
    rfl
  | cons b budget ih =>
    obtain ⟨b', other, rfl⟩ := List.exists_cons_of_length_pos (l := other) (by simp [← hlength])
    rw [fewEnds, fewEnds, hstep hc, List.flatMap_map, List.map_cons, List.map_flatMap]
    congr 1
    refine List.flatMap_congr fun d hd => ?_
    obtain ⟨t, ht⟩ := spans_of_mem_ends hd
    exact ih (by simpa using hlength) (hc.after ht)

theorem map_class_folded {accepts : Char → Bool} (h : CaseBlind accepts) {o : Option Char}
    (ho : ∀ x, o = some x → IsAscii x) : (o.map folded).map accepts = o.map accepts := by
  cases o with
  | none => rfl
  | some x => simp [h x (ho x rfl)]

theorem atBoundary_folded (c : Cursor) : atBoundary c.folded = atBoundary c := by
  have hword : ∀ o : Option Char, (o.map folded).map isWord = o.map isWord := by
    rintro (_ | x) <;> simp [isWord_any_case]
  rw [atBoundary, atBoundary, Cursor.folded]
  simp only [List.head?_map, hword]

/-- A pattern that ignores case ends in the same places of the folded text. -/
theorem ends_folded (hp : IgnoresCase p) (hc : c.InAscii) :
    ends p c.folded = (ends p c).map Cursor.folded := by
  induction p generalizing c with
  | empty => rfl
  | one accepts =>
    obtain ⟨last, rest⟩ := c
    cases rest with
    | nil => rfl
    | cons x xs =>
      have hx : accepts (folded x) = accepts x := hp x (hc.rest x (by simp))
      simp only [ends, Cursor.folded, List.map_cons, hx]
      split <;> rfl
  | seq p q ihp ihq =>
    rw [ends, ends, ihp hp.1 hc, List.flatMap_map, List.map_flatMap]
    refine List.flatMap_congr fun d hd => ?_
    obtain ⟨t, ht⟩ := spans_of_mem_ends hd
    exact ihq hp.2 (hc.after ht)
  | alt p q ihp ihq => rw [ends, ends, ihp hp.1 hc, ihq hp.2 hc, List.map_append]
  | many limit p ih =>
    cases limit with
    | none => exact manyEnds_folded (by simp [Cursor.folded]) (ih hp) hc
    | some limit => exact manyEnds_folded (by simp) (ih hp) hc
  | few p ih => exact fewEnds_folded (by simp [Cursor.folded]) (ih hp) hc
  | notBefore p ih =>
    rw [ends, ends, ih hp hc, List.isEmpty_map]
    split <;> rfl
  | notAfter accepts =>
    rw [ends, ends, Cursor.folded, map_class_folded hp hc.last]
    split <;> rfl
  | boundary =>
    rw [ends, ends, atBoundary_folded]
    split <;> rfl
  | atEnd =>
    rw [ends, ends, Cursor.folded, List.isEmpty_map]
    split <;> rfl

end Pattern

def Hit.folded (h : Hit) : Hit := ⟨h.start.folded, h.cuts.map Cursor.folded⟩

namespace Hit

variable (h : Hit)

theorem stop_folded : h.folded.stop = h.stop.folded := by
  simp only [stop, Hit.folded, List.getLast?_map]
  cases h.cuts.getLast? <;> rfl

theorem text_folded : h.folded.text = h.text.map Text.folded := by
  rw [text, stop_folded, text, ← Cursor.upTo_folded]
  rfl

theorem partStart_folded (i : Nat) : h.folded.partStart i = (h.partStart i).folded := by
  cases i with
  | zero => rfl
  | succ i =>
    simp only [partStart, Hit.folded, List.getElem?_map]
    cases h.cuts[i]? <;> rfl

theorem part_folded (i : Nat) : h.folded.part i = (h.part i).map Text.folded := by
  rw [part, partStart_folded, partStart_folded, Cursor.upTo_folded, part]

end Hit

namespace Pattern

variable {p : Pattern} {parts : List Pattern} {c : Cursor}

theorem cuts_folded (hparts : ∀ p ∈ parts, IgnoresCase p) (hc : c.InAscii) :
    cuts parts c.folded = (cuts parts c).map (List.map Cursor.folded) := by
  induction parts generalizing c with
  | nil => rfl
  | cons p parts ih =>
    rw [cuts, cuts, run_eq_findSome?, run_eq_findSome?, ends_folded (hparts p (by simp)) hc]
    refine findSome?_map_of_agree fun d hd => ?_
    obtain ⟨t, ht⟩ := spans_of_mem_ends hd
    rw [ih (fun q hq => hparts q (by simp [hq])) (hc.after ht), Option.map_map, Option.map_map]
    rfl

theorem hitAt?_folded (hparts : ∀ p ∈ parts, IgnoresCase p) (hc : c.InAscii) :
    hitAt? parts c.folded = (hitAt? parts c).map Hit.folded := by
  rw [hitAt?, hitAt?, cuts_folded hparts hc, Option.map_map, Option.map_map]
  rfl

theorem find?_folded (hparts : ∀ p ∈ parts, IgnoresCase p) (hc : c.InAscii) :
    find? parts c.folded = (find? parts c).map Hit.folded := by
  rw [find?, find?, Cursor.positions_folded]
  refine findSome?_map_of_agree fun d hd => ?_
  obtain ⟨t, ht⟩ := Cursor.mem_positions.mp hd
  exact hitAt?_folded hparts (hc.after ht)

theorem matchesAt_folded (hp : IgnoresCase p) (hc : c.InAscii) :
    matchesAt p c.folded = matchesAt p c := by
  rw [matchesAt, matchesAt, run_eq_findSome?, run_eq_findSome?, ends_folded hp hc]
  cases ends p c <;> rfl

def Segment.folded : Segment → Segment
  | .kept c => .kept (Text.folded c)
  | .hit h => .hit h.folded

theorem nextSegment_folded (hparts : ∀ p ∈ parts, IgnoresCase p) (hc : c.InAscii) :
    nextSegment parts c.folded =
      (nextSegment parts c).map fun next => (next.1.folded, next.2.folded) := by
  have hshorter : ((fun h : Hit => decide (h.stop.rest.length < c.folded.rest.length)) ∘
      Hit.folded) = fun h => decide (h.stop.rest.length < c.rest.length) := by
    funext h
    simp [Hit.stop_folded, Cursor.folded]
  rw [nextSegment, nextSegment, hitAt?_folded hparts hc, Option.filter_map, hshorter]
  cases (hitAt? parts c).filter fun h => decide (h.stop.rest.length < c.rest.length) with
  | some h => simp [Segment.folded, Hit.stop_folded]
  | none =>
    obtain ⟨last, rest⟩ := c
    cases rest <;> rfl

theorem segments_folded (hparts : ∀ p ∈ parts, IgnoresCase p) (hc : c.InAscii) :
    segments parts c.folded = (segments parts c).map Segment.folded := by
  induction hn : c.rest.length using Nat.strongRecOn generalizing c with
  | _ n ih =>
    have hnext := nextSegment_folded hparts hc
    cases hsegment : nextSegment parts c with
    | none =>
      rw [hsegment] at hnext
      rw [segments_of_none hnext, segments_of_none hsegment]
      rfl
    | some next =>
      obtain ⟨s, d⟩ := next
      rw [hsegment] at hnext
      obtain ⟨t, ht⟩ := (spans_of_nextSegment hsegment).1
      rw [segments_step hnext, segments_step hsegment, List.map_cons,
        ih _ (hn ▸ nextSegment_shorter hsegment) (hc.after ht) rfl]

variable {text : List Char}

theorem isAscii_of_infix {t u : List Char} (h : t <:+: u) (hu : ∀ x ∈ u, IsAscii x) :
    ∀ x ∈ t, IsAscii x := fun x hx => hu x (h.subset hx)

theorem findAll_folded (hparts : ∀ p ∈ parts, IgnoresCase p) (htext : ∀ x ∈ text, IsAscii x) :
    findAll parts (text.map folded) = (findAll parts text).map Hit.folded := by
  have hhit : ∀ s : Segment, s.folded.hit? = s.hit?.map Hit.folded := by rintro (_ | _) <;> rfl
  rw [findAll, findAll, Cursor.ofText_folded,
    segments_folded hparts (Cursor.inAscii_ofText htext), List.filterMap_map, List.map_filterMap]
  exact List.filterMap_congr fun s _ => hhit s

theorem replaceAll_folded {replacement : List Char} (hp : IgnoresCase p)
    (hreplacement : replacement.map folded = replacement) (htext : ∀ x ∈ text, IsAscii x) :
    replaceAll p replacement (text.map folded) = (replaceAll p replacement text).map folded := by
  have hpiece : ∀ s : Segment,
      s.folded.replaced replacement = (s.replaced replacement).map folded := by
    rintro (_ | _)
    · rfl
    · exact hreplacement.symm
  rw [replaceAll, replaceAll, Cursor.ofText_folded,
    segments_folded (by simpa using hp) (Cursor.inAscii_ofText htext), List.flatMap_map,
    List.map_flatMap]
  exact List.flatMap_congr fun s _ => hpiece s

instance : DecidablePred CaseBlind := fun accepts =>
  decidable_of_iff
    (∀ n : Fin 128, accepts (folded (Char.ofNat n)) = accepts (Char.ofNat n))
    ⟨fun h _ hx => of_ascii (P := fun x => accepts (folded x) = accepts x) h hx,
      fun h n => h (Char.ofNat n) ((by decide : ∀ n : Fin 128, IsAscii (Char.ofNat n)) n)⟩

theorem caseBlind_isBlank : CaseBlind isBlank := fun x _ => isBlank_any_case x

@[simp]
theorem ignoresCase_letter (c : Char) : IgnoresCase (letter c) := by
  intro x hx
  show (folded (folded x) == folded c) = (folded x == folded c)
  rw [folded_folded hx]

@[simp]
theorem ignoresCase_sequence {ps : List Pattern} :
    IgnoresCase (sequence ps) ↔ ∀ p ∈ ps, IgnoresCase p := by
  induction ps with
  | nil => simp [sequence, IgnoresCase]
  | cons p ps ih => rw [sequence_cons, IgnoresCase, ih, List.forall_mem_cons]

@[simp]
theorem ignoresCase_word (s : String) : IgnoresCase (word s) := by
  rw [word, ignoresCase_sequence]
  intro p hp
  obtain ⟨c, -, rfl⟩ := List.mem_map.mp hp
  exact ignoresCase_letter c

@[simp]
theorem ignoresCase_choice {ps : List Pattern} :
    IgnoresCase (choice ps) ↔ ∀ p ∈ ps, IgnoresCase p := by
  induction ps with
  | nil => simp [choice, IgnoresCase]
  | cons p ps ih =>
    cases ps with
    | nil => simp [choice]
    | cons q qs =>
      show IgnoresCase (alt p (choice (q :: qs))) ↔ _
      rw [IgnoresCase, ih]
      exact List.forall_mem_cons.symm

@[simp]
theorem ignoresCase_optional : IgnoresCase (optional p) ↔ IgnoresCase p :=
  and_iff_left trivial

@[simp]
theorem ignoresCase_run0 {accepts : Char → Bool} : IgnoresCase (run0 accepts) ↔ CaseBlind accepts :=
  Iff.rfl

@[simp]
theorem ignoresCase_blanks0 : IgnoresCase blanks0 := caseBlind_isBlank

@[simp]
theorem ignoresCase_blanks1 : IgnoresCase blanks1 := ⟨caseBlind_isBlank, caseBlind_isBlank⟩

@[simp]
theorem ignoresCase_run1 {accepts : Char → Bool} : IgnoresCase (run1 accepts) ↔ CaseBlind accepts :=
  and_self_iff

end Pattern

end QueryTuning
