import QueryTuning.Pattern.Scan
import QueryTuning.Proofs.Lists
import QueryTuning.Proofs.Pattern.Ends

/-!
# Scans

A scan for one pattern goes from place to place by the preferred ends of the pattern,
and replacing its hits does the same.
-/

set_option autoImplicit false

namespace QueryTuning.Pattern

def replaceFrom (p : Pattern) (replacement : List Char) (c : Cursor) : List Char :=
  (segments [p] c).flatMap (Segment.replaced replacement)

theorem replaceAll_eq (p : Pattern) (replacement text : List Char) :
    replaceAll p replacement text = replaceFrom p replacement (Cursor.ofText text) := rfl

variable {p : Pattern} {c d : Cursor} {replacement : List Char}

theorem hitAt?_single : hitAt? [p] c = (ends p c).head?.map fun d => ⟨c, [d]⟩ := by
  rw [hitAt?, cuts, run_eq_findSome?]
  cases ends p c with
  | nil => rfl
  | cons d ds => rfl

theorem segments_end {parts : List Pattern} (hrest : c.rest = []) : segments parts c = [] := by
  rw [segments]
  split
  · rfl
  next s d found =>
    have := nextSegment_shorter found
    simp [hrest] at this

theorem segments_of_none {parts : List Pattern} (h : nextSegment parts c = none) :
    segments parts c = [] := by
  rw [segments]
  split
  · rfl
  next hsome => simp [h] at hsome

theorem segments_step {parts : List Pattern} {s : Segment}
    (h : nextSegment parts c = some (s, d)) : segments parts c = s :: segments parts d := by
  rw [segments]
  split
  next hnone => simp [h] at hnone
  next s' d' found =>
    cases h.symm.trans found
    rfl

theorem segments_hit (hd : (ends p c).head? = some d) (hshort : d.rest.length < c.rest.length) :
    segments [p] c = .hit ⟨c, [d]⟩ :: segments [p] d := by
  apply segments_step
  rw [nextSegment, hitAt?_single, hd, Option.map_some, Option.filter_some]
  simp [Hit.stop, hshort]

/-- A place where no text is found to begin keeps its character. -/
theorem segments_kept {x : Char} {xs : List Char} (hrest : c.rest = x :: xs)
    (hmiss : ∀ d, (ends p c).head? = some d → ¬ d.rest.length < c.rest.length) :
    segments [p] c = .kept x :: segments [p] ⟨some x, xs⟩ := by
  apply segments_step
  rw [nextSegment, hitAt?_single]
  cases hd : (ends p c).head? with
  | none => simp [hrest]
  | some d =>
    have hlong := hmiss d hd
    rw [hrest] at hlong
    rw [Option.map_some, Option.filter_some, hrest]
    simp only [Hit.stop, List.getLast?_singleton, Option.getD_some, hlong, decide_false]
    rfl

theorem replaceFrom_end (hrest : c.rest = []) : replaceFrom p replacement c = [] := by
  simp [replaceFrom, segments_end hrest]

theorem replaceFrom_hit (hd : (ends p c).head? = some d)
    (hshort : d.rest.length < c.rest.length) :
    replaceFrom p replacement c = replacement ++ replaceFrom p replacement d := by
  simp [replaceFrom, segments_hit hd hshort, Segment.replaced]

theorem replaceFrom_kept {x : Char} {xs : List Char} (hrest : c.rest = x :: xs)
    (hmiss : ∀ d, (ends p c).head? = some d → ¬ d.rest.length < c.rest.length) :
    replaceFrom p replacement c = x :: replaceFrom p replacement ⟨some x, xs⟩ := by
  simp [replaceFrom, segments_kept hrest hmiss, Segment.replaced]

theorem replaceFrom_none {x : Char} {xs : List Char} (hrest : c.rest = x :: xs)
    (hnone : ends p c = []) :
    replaceFrom p replacement c = x :: replaceFrom p replacement ⟨some x, xs⟩ :=
  replaceFrom_kept hrest fun d hd => by simp [hnone] at hd

/-- What holds at the end of a text, and at a place if it holds after the hit or the character
there, holds everywhere. -/
theorem scan_induction (p : Pattern) {motive : Cursor → Prop}
    (done : ∀ c, c.rest = [] → motive c)
    (hit : ∀ c d, (ends p c).head? = some d → d.rest.length < c.rest.length → motive d → motive c)
    (kept : ∀ c x xs, c.rest = x :: xs →
      (∀ d, (ends p c).head? = some d → ¬ d.rest.length < c.rest.length) →
      motive ⟨some x, xs⟩ → motive c)
    (c : Cursor) : motive c := by
  induction hn : c.rest.length using Nat.strongRecOn generalizing c with
  | _ n ih =>
    cases hrest : c.rest with
    | nil => exact done c hrest
    | cons x xs =>
      by_cases hfound : ∃ d, (ends p c).head? = some d ∧ d.rest.length < c.rest.length
      · obtain ⟨d, hd, hshort⟩ := hfound
        exact hit c d hd hshort (ih _ (hn ▸ hshort) d rfl)
      · refine kept c x xs hrest (fun d hd hshort => hfound ⟨d, hd, hshort⟩) ?_
        exact ih xs.length (by simp [← hn, hrest]) _ rfl

variable {parts : List Pattern} {h : Hit}

theorem cuts_cons {ds : List Cursor} (hds : cuts (p :: parts) c = some ds) :
    ∃ d rest, ds = d :: rest ∧ d ∈ ends p c ∧ cuts parts d = some rest := by
  rw [cuts, run_eq_findSome?] at hds
  obtain ⟨d, hd, hrest⟩ := List.exists_of_findSome?_eq_some hds
  obtain ⟨rest, hcuts, rfl⟩ := Option.map_eq_some_iff.mp hrest
  exact ⟨d, rest, rfl, hd, hcuts⟩

theorem cuts_cons_ne_none (hd : d ∈ ends p c) (hrest : cuts parts d ≠ none) :
    cuts (p :: parts) c ≠ none := by
  intro hnone
  rw [cuts, run_eq_findSome?, List.findSome?_eq_none_iff] at hnone
  exact hrest (Option.map_eq_none_iff.mp (hnone d hd))

theorem spans_of_mem_cuts {ds : List Cursor} (hds : cuts parts c = some ds) (hd : d ∈ ds) :
    ∃ t, c.Spans t d := by
  induction parts generalizing c ds with
  | nil =>
    obtain rfl : [] = ds := by simpa [cuts] using hds
    cases hd
  | cons p parts ih =>
    obtain ⟨m, rest, rfl, hm, hrest⟩ := cuts_cons hds
    obtain ⟨s, hs⟩ := spans_of_mem_ends hm
    rcases List.mem_cons.mp hd with rfl | hd
    · exact ⟨s, hs⟩
    · obtain ⟨t, ht⟩ := ih hrest hd
      exact ⟨s ++ t, hs.append ht⟩

/-- The parts were found one after the other from the start of the hit, which is at or after the
given place. -/
structure FoundFrom (parts : List Pattern) (c : Cursor) (h : Hit) : Prop where
  reached : ∃ t, c.Spans t h.start
  cuts : Pattern.cuts parts h.start = some h.cuts

theorem FoundFrom.after {t : List Char} (ht : c.Spans t d) (hfound : FoundFrom parts d h) :
    FoundFrom parts c h := by
  obtain ⟨u, hu⟩ := hfound.reached
  exact ⟨⟨t ++ u, ht.append hu⟩, hfound.cuts⟩

/-- The text of a hit leads from its start to its stop. -/
theorem FoundFrom.spans (hfound : FoundFrom parts c h) : h.start.Spans h.text h.stop := by
  have hstop : ∃ t, h.start.Spans t h.stop := by
    rw [Hit.stop]
    cases hlast : h.cuts.getLast? with
    | none => exact ⟨[], Cursor.spans_nil.mpr rfl⟩
    | some d => exact spans_of_mem_cuts hfound.cuts (List.mem_of_getLast? hlast)
  obtain ⟨t, ht⟩ := hstop
  rwa [Hit.text, ht.upTo]

theorem FoundFrom.reached_part (hfound : FoundFrom parts c h) (i : Nat) :
    ∃ t, c.Spans t (h.partStart i) := by
  obtain ⟨t, ht⟩ := hfound.reached
  cases i with
  | zero => exact ⟨t, ht⟩
  | succ i =>
    rw [Hit.partStart]
    cases hcut : h.cuts[i]? with
    | none => exact ⟨t, ht⟩
    | some d =>
      obtain ⟨u, hu⟩ := spans_of_mem_cuts hfound.cuts (List.mem_of_getElem? hcut)
      exact ⟨t ++ u, ht.append hu⟩

/-- Every part of a hit is a stretch of the text. -/
theorem FoundFrom.part_isInfix (hfound : FoundFrom parts c h) (i : Nat) :
    h.part i <:+: c.rest := by
  obtain ⟨t, ht⟩ := hfound.reached_part i
  have hsuffix : (h.partStart i).rest <:+ c.rest := ⟨t, ht.rest.symm⟩
  exact (List.take_prefix _ _).isInfix.trans hsuffix.isInfix

theorem FoundFrom.head?_ends (hfound : FoundFrom [p] c h) :
    (ends p h.start).head? = some h.stop := by
  have hcuts := hfound.cuts
  rw [Pattern.cuts, run_eq_findSome?] at hcuts
  cases hends : ends p h.start with
  | nil => simp [hends] at hcuts
  | cons d ds =>
    rw [hends] at hcuts
    have hone : [d] = h.cuts := by simpa [Pattern.cuts] using hcuts
    simp [Hit.stop, ← hone]

theorem foundFrom_of_hitAt? (hc : hitAt? parts c = some h) : h.start = c ∧ FoundFrom parts c h := by
  obtain ⟨ds, hds, rfl⟩ := Option.map_eq_some_iff.mp hc
  exact ⟨rfl, ⟨[], Cursor.spans_nil.mpr rfl⟩, hds⟩

theorem foundFrom_of_find? (hfind : find? parts c = some h) : FoundFrom parts c h := by
  obtain ⟨d, hd, hhit⟩ := List.exists_of_findSome?_eq_some hfind
  obtain ⟨t, ht⟩ := Cursor.mem_positions.mp hd
  exact (foundFrom_of_hitAt? hhit).2.after ht

theorem spans_of_nextSegment {s : Segment} (hnext : nextSegment parts c = some (s, d)) :
    (∃ t, c.Spans t d) ∧ ∀ h, s = .hit h → FoundFrom parts c h := by
  unfold nextSegment at hnext
  split at hnext
  next h heq =>
    obtain ⟨hstart, hfound⟩ := foundFrom_of_hitAt? (Option.filter_eq_some_iff.mp heq).1
    cases hnext
    refine ⟨⟨h.text, hstart ▸ hfound.spans⟩, fun g hg => ?_⟩
    cases hg
    exact hfound
  · split at hnext
    · cases hnext
    next x xs hrest =>
      cases hnext
      exact ⟨⟨[x], Cursor.spans_singleton.mpr ⟨xs, hrest, rfl⟩⟩, by simp⟩

theorem foundFrom_of_mem_segments (hh : .hit h ∈ segments parts c) : FoundFrom parts c h := by
  induction hn : c.rest.length using Nat.strongRecOn generalizing c with
  | _ n ih =>
    rw [segments] at hh
    split at hh
    · simp at hh
    next s d hnext =>
      obtain ⟨⟨t, ht⟩, hfound⟩ := spans_of_nextSegment hnext
      rcases List.mem_cons.mp hh with hfirst | hlater
      · exact hfound h hfirst.symm
      · exact (ih _ (hn ▸ nextSegment_shorter hnext) hlater rfl).after ht

theorem foundFrom_of_mem_hits (hh : h ∈ (segments parts c).filterMap Segment.hit?) :
    FoundFrom parts c h := by
  obtain ⟨s, hs, hhit⟩ := List.mem_filterMap.mp hh
  cases s with
  | kept x => cases hhit
  | hit g =>
    cases hhit
    exact foundFrom_of_mem_segments hs

def hitsFrom (p : Pattern) (c : Cursor) : List Hit := (segments [p] c).filterMap Segment.hit?

theorem hitsFrom_hit (hd : (ends p c).head? = some d) (hshort : d.rest.length < c.rest.length) :
    hitsFrom p c = ⟨c, [d]⟩ :: hitsFrom p d := by
  rw [hitsFrom, segments_hit hd hshort]
  rfl

theorem hitsFrom_kept {x : Char} {xs : List Char} (hrest : c.rest = x :: xs)
    (hmiss : ∀ d, (ends p c).head? = some d → ¬ d.rest.length < c.rest.length) :
    hitsFrom p c = hitsFrom p ⟨some x, xs⟩ := by
  rw [hitsFrom, segments_kept hrest hmiss]
  rfl

structure FirstHit (p : Pattern) (c : Cursor) (before : List Char) (h : Hit) : Prop where
  kept : c.Spans before h.start
  stop : (ends p h.start).head? = some h.stop
  shorter : h.stop.rest.length < h.start.rest.length
  hits : hitsFrom p c = h :: hitsFrom p h.stop
  replaced : ∀ r, replaceFrom p r c = before ++ (r ++ replaceFrom p r h.stop)

theorem FirstHit.text {before : List Char} {h : Hit} (hfirst : FirstHit p c before h) :
    h.start.Spans h.text h.stop := by
  obtain ⟨t, ht⟩ := spans_of_mem_ends (List.mem_of_head? hfirst.stop)
  rwa [Hit.text, ht.upTo]

theorem FirstHit.rest {before : List Char} {h : Hit} (hfirst : FirstHit p c before h) :
    c.rest = before ++ (h.text ++ h.stop.rest) := by
  rw [hfirst.kept.rest, hfirst.text.rest]

theorem FirstHit.stop_shorter {before : List Char} {h : Hit} (hfirst : FirstHit p c before h) :
    h.stop.rest.length < c.rest.length := by
  have := hfirst.shorter
  rw [hfirst.kept.rest, List.length_append]
  omega

theorem FirstHit.text_ne_nil {before : List Char} {h : Hit} (hfirst : FirstHit p c before h) :
    h.text ≠ [] := by
  intro hnil
  have := hfirst.shorter
  rw [hfirst.text.rest, hnil, List.nil_append] at this
  exact Nat.lt_irrefl _ this

/-- A scan either finds nothing and leaves the text as it is, or goes on after its first hit. -/
theorem no_hit_or_first (p : Pattern) (c : Cursor) :
    (hitsFrom p c = [] ∧ ∀ r, replaceFrom p r c = c.rest) ∨ ∃ before h, FirstHit p c before h := by
  induction c using scan_induction p with
  | done c hrest =>
    refine .inl ⟨by simp [hitsFrom, segments_end hrest], fun r => ?_⟩
    rw [replaceFrom_end hrest, hrest]
  | hit c d hd hshort _ =>
    exact .inr ⟨[], ⟨c, [d]⟩, Cursor.spans_nil.mpr rfl, hd, hshort, hitsFrom_hit hd hshort,
      fun _ => replaceFrom_hit hd hshort⟩
  | kept c x xs hrest hmiss ih =>
    have hhits : hitsFrom p c = hitsFrom p ⟨some x, xs⟩ := hitsFrom_kept hrest hmiss
    have hkept : ∀ r, replaceFrom p r c = x :: replaceFrom p r ⟨some x, xs⟩ :=
      fun _ => replaceFrom_kept hrest hmiss
    rcases ih with ⟨hnone, hsame⟩ | ⟨before, h, hfirst⟩
    · exact .inl ⟨hhits.trans hnone, fun r => by rw [hkept, hsame, hrest]⟩
    · have hstep : c.Spans [x] ⟨some x, xs⟩ := Cursor.spans_singleton.mpr ⟨xs, hrest, rfl⟩
      exact .inr ⟨x :: before, h, hstep.append hfirst.kept, hfirst.stop, hfirst.shorter,
        hhits.trans hfirst.hits, fun r => by rw [hkept, hfirst.replaced]; rfl⟩

/-- What holds where nothing is found, and holds before a hit if it holds after it, holds
everywhere. -/
theorem hit_induction (p : Pattern) {motive : Cursor → Prop}
    (none : ∀ c, hitsFrom p c = [] → (∀ r, replaceFrom p r c = c.rest) → motive c)
    (first : ∀ c before h, FirstHit p c before h → motive h.stop → motive c)
    (c : Cursor) : motive c := by
  induction hn : c.rest.length using Nat.strongRecOn generalizing c with
  | _ n ih =>
    rcases no_hit_or_first p c with ⟨hnone, hsame⟩ | ⟨before, h, hfirst⟩
    · exact none c hnone hsame
    · exact first c before h hfirst (ih _ (hn ▸ hfirst.stop_shorter) h.stop rfl)

/-- A text in which the pattern accepts nothing stays as it is. -/
theorem replaceFrom_of_none (h : ∀ d ∈ c.positions, ends p d = []) :
    replaceFrom p replacement c = c.rest := by
  rcases no_hit_or_first p c with ⟨-, hsame⟩ | ⟨before, hit, hfirst⟩
  · exact hsame replacement
  · have hnone := h hit.start (Cursor.mem_positions.mpr ⟨before, hfirst.kept⟩)
    have hstop := hfirst.stop
    simp [hnone] at hstop

theorem mem_hitsFrom (hh : h ∈ hitsFrom p c) :
    ∃ u, c.Spans u h.start ∧ h.stop ∈ ends p h.start := by
  have hfound := foundFrom_of_mem_hits hh
  obtain ⟨u, hu⟩ := hfound.reached
  exact ⟨u, hu, List.mem_of_head? hfound.head?_ends⟩

theorem mem_replaceFrom {x : Char} (hx : x ∈ replaceFrom p replacement c) :
    x ∈ c.rest ∨ x ∈ replacement := by
  induction c using hit_induction p with
  | none c _ hsame =>
    rw [hsame] at hx
    exact .inl hx
  | first c before h hfirst ih =>
    rw [hfirst.replaced, List.mem_append, List.mem_append] at hx
    rw [hfirst.rest]
    rcases hx with hx | hx | hx
    · exact .inl (by simp [hx])
    · exact .inr hx
    · rcases ih hx with hx | hx
      · exact .inl (by simp [hx])
      · exact .inr hx

/-- A replacement by at most one character makes no text longer. -/
theorem length_replaceFrom_le (hreplacement : replacement.length ≤ 1) (c : Cursor) :
    (replaceFrom p replacement c).length ≤ c.rest.length := by
  induction c using hit_induction p with
  | none c _ hsame => simp [hsame]
  | first c before h hfirst ih =>
    have hshorter := hfirst.shorter
    have hstart := hfirst.kept.rest
    rw [hfirst.replaced, hstart]
    simp only [List.length_append]
    omega

/-- A replacement that is shorter than every stretch it stands for saves a character for each. -/
theorem length_replaceFrom
    (hp : ∀ c d, d ∈ ends p c → d.rest.length + replacement.length < c.rest.length) (c : Cursor) :
    (replaceFrom p replacement c).length + (hitsFrom p c).length ≤ c.rest.length := by
  induction c using hit_induction p with
  | none c hnone hsame => simp [hnone, hsame]
  | first c before h hfirst ih =>
    have hsaved := hp h.start h.stop (List.mem_of_head? hfirst.stop)
    have hstart := hfirst.kept.rest
    rw [hfirst.replaced, hfirst.hits, hstart]
    simp only [List.length_append, List.length_cons]
    omega

/-- A text that the pattern takes whole is replaced whole. -/
theorem replaceFrom_whole (hd : ends p c = [d]) (hc : c.rest ≠ []) (hrest : d.rest = []) :
    replaceFrom p replacement c = replacement := by
  have hshort : d.rest.length < c.rest.length := by
    rw [hrest]
    exact List.length_pos_iff.mpr hc
  rw [replaceFrom_hit (by rw [hd]; rfl) hshort, replaceFrom_end hrest, List.append_nil]

end QueryTuning.Pattern
