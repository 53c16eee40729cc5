import QueryTuning.Proofs.Query.Agreement

/-!
# Queries of hints only

The remedy for a hint leaves nothing in its place. So a query that holds nothing but hints and
blanks is revised to a blank text, and no other query with some content is.
-/

set_option autoImplicit false

namespace QueryTuning.Query

open Pattern Text
open scoped List

variable {text t : List Char} {c d : Cursor} {rs : List Remedy}

def IsHintText (t : List Char) : Prop :=
  ∃ w b₁ b₂ n b₃, IsHint w b₁ b₂ n b₃ ∧ t = w ++ (b₁ ++ (['('] ++ (b₂ ++ (n ++ (b₃ ++ [')'])))))

theorem hintText_of_mem_ends (hd : d ∈ ends noLockHint c) : ∃ t, IsHintText t ∧ c.Spans t d := by
  obtain ⟨-, w, b₁, b₂, n, b₃, hhint, hspan⟩ := hint_of_mem_ends hd
  exact ⟨_, ⟨w, b₁, b₂, n, b₃, hhint, rfl⟩, hspan⟩

theorem exists_spans {u rest : List Char} (hrest : c.rest = u ++ rest) :
    ∃ d, c.Spans u d ∧ d.rest = rest :=
  ⟨⟨u.getLast?.or c.last, rest⟩, ⟨hrest, rfl⟩, rfl⟩

/-- What the remedy for hints takes out: blanks and a hint, with no word right before. -/
theorem hintText_of_mem_ends_withBlanks (hd : d ∈ ends noLockWithBlanks c) :
    ∃ b t, (∀ x ∈ b, isBlank x = true) ∧ IsHintText t ∧ c.Spans (b ++ t) d ∧
      (b = [] → ∀ y, c.last = some y → isWord y = false) := by
  obtain ⟨m, hm, hd⟩ := mem_ends_seq.mp hd
  obtain ⟨b, hb, hspan⟩ := mem_ends_run0.mp hm
  obtain ⟨t, ht, hspan'⟩ := hintText_of_mem_ends hd
  refine ⟨b, t, hb, ht, hspan.append hspan', ?_⟩
  rintro rfl
  exact Cursor.spans_nil.mp hspan ▸ (hint_of_mem_ends hd).1

def isHintChar (x : Char) : Bool := isBlank x || isWord x || isParenthesis x

theorem isHintChar_of_blank (h : ∀ x ∈ t, isBlank x = true) : ∀ x ∈ t, isHintChar x = true :=
  fun x hx => by simp [isHintChar, h x hx]

namespace IsHintText

theorem startsOutside (ht : IsHintText t) (rest : List Char) :
    StartsOutside isBlank (t ++ rest) := by
  obtain ⟨w, b₁, b₂, n, b₃, hhint, rfl⟩ := ht
  rw [List.append_assoc]
  exact startsOutside_reading hhint.opening (by decide) (by decide) _

/-- A hint ends in a mark. -/
theorem getLast?_eq (ht : IsHintText t) : t.getLast? = some ')' := by
  obtain ⟨w, b₁, b₂, n, b₃, -, rfl⟩ := ht
  simp only [← List.append_assoc, List.getLast?_concat]

theorem ne_nil (ht : IsHintText t) : t ≠ [] := by
  rintro rfl
  cases ht.getLast?_eq

/-- A hint is found behind blanks, and also without them where no word ends. -/
theorem found (ht : IsHintText t) {b rest : List Char} (hb : ∀ x ∈ b, isBlank x = true)
    (hrest : c.rest = b ++ (t ++ rest))
    (hbehind : b = [] → ∀ y, c.last = some y → isWord y = false) :
    ∃ m d, c.Spans b m ∧ m.Spans t d ∧ d.rest = rest ∧ ends noLockHint m = [d] := by
  obtain ⟨m, hspan, hm⟩ := exists_spans hrest
  obtain ⟨d, hspan', hd⟩ := exists_spans hm
  refine ⟨m, d, hspan, hspan', hd, ?_⟩
  obtain ⟨w, b₁, b₂, n, b₃, hhint, rfl⟩ := ht
  apply ends_hint hhint hspan'
  intro y hy
  rw [hspan.last, Option.or_eq_some_iff] at hy
  rcases hy with hy | ⟨hnone, hy⟩
  · exact isWord_of_isBlank (hb y (List.mem_of_getLast? hy))
  · exact hbehind (List.getLast?_eq_none_iff.mp hnone) y hy

/-- The remedy takes a hint out together with the blanks before it. -/
theorem taken (ht : IsHintText t) {b rest : List Char} (hb : ∀ x ∈ b, isBlank x = true)
    (hrest : c.rest = b ++ (t ++ rest))
    (hbehind : b = [] → ∀ y, c.last = some y → isWord y = false) :
    ∃ d, ends noLockWithBlanks c = [d] ∧ d.rest = rest ∧ d.last = some ')' ∧
      d.rest.length < c.rest.length := by
  obtain ⟨m, d, hspan, hspan', hd, hhint⟩ := ht.found hb hrest hbehind
  refine ⟨d, ?_, hd, ?_, ?_⟩
  · rw [noLockWithBlanks,
      ends_gap beginsInk_noLockHint hb hspan (hspan'.rest ▸ ht.startsOutside d.rest), hhint]
  · rw [hspan'.last, ht.getLast?_eq]
    rfl
  · have hlength := List.length_pos_iff.mpr ht.ne_nil
    rw [hspan.rest, hspan'.rest, List.length_append, List.length_append]
    omega

theorem chars (ht : IsHintText t) : ∀ x ∈ t, isHintChar x = true := by
  obtain ⟨w, b₁, b₂, n, b₃, hhint, rfl⟩ := ht
  have hreads {word u : List Char} (hu : Reads word u) (h : ∀ x ∈ word, isWord x = true) :
      ∀ x ∈ u, isHintChar x = true := fun x hx => by simp [isHintChar, hu.isWord h x hx]
  simp only [List.forall_mem_append, List.forall_mem_singleton]
  exact ⟨hreads hhint.opening (by decide), isHintChar_of_blank hhint.gap, by decide,
    isHintChar_of_blank hhint.margin, hreads hhint.hint (by decide), isHintChar_of_blank hhint.rest,
    by decide⟩

end IsHintText

/-- Nothing but hints and blanks. -/
inductive HintsOnly : List Char → Prop where
  | blank {text : List Char} (h : ∀ x ∈ text, isBlank x = true) : HintsOnly text
  | hint {b t rest : List Char} (hb : ∀ x ∈ b, isBlank x = true) (ht : IsHintText t)
      (hrest : HintsOnly rest) : HintsOnly (b ++ (t ++ rest))

namespace HintsOnly

theorem chars (h : HintsOnly text) : ∀ x ∈ text, isHintChar x = true := by
  induction h with
  | blank h => exact isHintChar_of_blank h
  | hint hb ht _ ih =>
    simp only [List.forall_mem_append]
    exact ⟨isHintChar_of_blank hb, ht.chars, ih⟩

/-- A hint opens no comment. -/
theorem not_pair (h : HintsOnly text) {x y : Char} (hx : isHintChar x = false) :
    ¬ [x, y] <:+: text := by
  intro hpair
  have hchar := h.chars x (hpair.subset (by simp))
  simp [hchar] at hx

/-- Where there is some content, there is a hint. -/
theorem occurs (h : HintsOnly text) (hinked : ∃ x ∈ text, isBlank x = false) :
    Occurs noLockHint (.ofText text) := by
  cases h with
  | blank h =>
    obtain ⟨x, hx, hink⟩ := hinked
    simp [h x hx] at hink
  | @hint b t rest hb ht _ =>
    obtain ⟨m, d, hspan, -, -, hends⟩ :=
      ht.found (c := .ofText (b ++ (t ++ rest))) hb rfl (by simp [Cursor.ofText])
    exact ⟨_, m, d, hspan, by rw [hends]; exact List.mem_singleton_self d⟩

end HintsOnly

/-- If only blanks are left when the hints are taken out, there were only hints and blanks. -/
theorem hintsOnly_of_blank (c : Cursor)
    (h : ∀ x ∈ replaceFrom noLockWithBlanks [] c, isBlank x = true) : HintsOnly c.rest := by
  induction c using hit_induction noLockWithBlanks with
  | none c _ hsame =>
    rw [hsame] at h
    exact .blank h
  | first c before hit hfirst ih =>
    rw [hfirst.replaced, List.nil_append] at h
    obtain ⟨b, t, hb, ht, hspan, -⟩ :=
      hintText_of_mem_ends_withBlanks (List.mem_of_head? hfirst.stop)
    have hrest : c.rest = (before ++ b) ++ (t ++ hit.stop.rest) := by
      rw [hfirst.kept.rest, hspan.rest]
      simp
    rw [hrest]
    refine .hint ?_ ht (ih fun x hx => h x (List.mem_append_right before hx))
    intro x hx
    exact (List.mem_append.mp hx).elim (fun hx => h x (List.mem_append_left _ hx)) (hb x)

/-- Where only blanks come, no text is found that holds anything else. -/
theorem replaceFrom_of_blank {p : Pattern} (hp : BeginsInk p) {r : List Char}
    (h : ∀ x ∈ c.rest, isBlank x = true) : replaceFrom p r c = c.rest := by
  apply replaceFrom_of_none
  intro d hd
  obtain ⟨u, hu⟩ := Cursor.mem_positions.mp hd
  apply List.eq_nil_iff_forall_not_mem.mpr
  intro e he
  obtain ⟨x, xs, hrest, hx, -⟩ := hp.exists_cons he
  have hblank := h x (by rw [hu.rest, hrest]; simp)
  simp [hblank] at hx

/-- Hints are taken out one after the other, each with the blanks before it. -/
theorem HintsOnly.blank_left (h : HintsOnly text) (hrest : c.rest = text)
    (hbehind : ∀ y, c.last = some y → isWord y = false) :
    ∀ x ∈ replaceFrom noLockWithBlanks [] c, isBlank x = true := by
  induction h generalizing c with
  | blank h =>
    subst hrest
    intro x hx
    exact h x ((mem_replaceFrom hx).resolve_right (by simp))
  | hint hb ht _ ih =>
    obtain ⟨d, hends, hd, hlast, hshort⟩ := ht.taken hb hrest fun _ => hbehind
    rw [replaceFrom_hit (by rw [hends]; rfl) hshort, List.nil_append]
    apply ih hd
    intro y hy
    rw [hlast] at hy
    cases hy
    decide

theorem blank_hintRemedy_iff :
    (∀ x ∈ hintRemedy.apply text, isBlank x = true) ↔ HintsOnly text :=
  ⟨hintsOnly_of_blank (.ofText text), fun h => h.blank_left rfl (by simp [Cursor.ofText])⟩

instance : DecidablePred HintsOnly := fun text =>
  decidable_of_iff (∀ x ∈ hintRemedy.apply text, isBlank x = true) blank_hintRemedy_iff

/-- A selection leaves its keyword. -/
theorem blank_selectionRemedy_iff :
    (∀ x ∈ selectionRemedy.apply text, isBlank x = true) ↔ ∀ x ∈ text, isBlank x = true := by
  constructor
  · intro h
    rcases no_hit_or_first selectDistinct (.ofText text) with ⟨-, hsame⟩ | ⟨before, hit, hfirst⟩
    · rwa [Remedy.apply, replaceAll_eq, selectionRemedy, hsame] at h
    · have hkeyword : 'S' ∈ selectionRemedy.apply text := by
        rw [Remedy.apply, replaceAll_eq]
        exact hfirst.replaced "SELECT".toList ▸ by simp
      exact absurd (h 'S' hkeyword) (by decide)
  · intro h
    have hsame : selectionRemedy.apply text = text :=
      replaceFrom_of_blank beginsInk_selectDistinct (c := .ofText text) h
    rwa [hsame]

theorem hintRemedy_not_mem (hrs : rs <+ [selectionRemedy]) : hintRemedy ∉ rs := by
  intro hmem
  have hsame := congrArg Remedy.replacement (List.mem_singleton.mp (hrs.subset hmem))
  exact absurd hsame (by decide)

theorem blank_applyAll_iff (hrs : rs <+ [hintRemedy, selectionRemedy]) :
    (∀ x ∈ applyAll rs text, isBlank x = true) ↔
      (∀ x ∈ text, isBlank x = true) ∨ hintRemedy ∈ rs ∧ HintsOnly text := by
  have hselection : ∀ {rs : List Remedy} {text : List Char}, rs <+ [selectionRemedy] →
      ((∀ x ∈ applyAll rs text, isBlank x = true) ↔ ∀ x ∈ text, isBlank x = true) := by
    intro rs text hrs
    rcases List.sublist_singleton.mp hrs with rfl | rfl
    · exact Iff.rfl
    · exact blank_selectionRemedy_iff
  rcases List.sublist_cons_iff.mp hrs with hnone | ⟨later, rfl, hlater⟩
  · simp [hselection hnone, hintRemedy_not_mem hnone]
  · rw [applyAll, List.foldl_cons, ← applyAll, hselection hlater, blank_hintRemedy_iff]
    simp only [List.mem_cons, true_or, true_and]
    exact ⟨.inr, fun h => h.elim .blank id⟩

/-- A hint that is written in a query without comments is found in its normal form. -/
theorem hintRemedy_mem_remedies (hlines : ¬ ['-', '-'] <:+: text) (hblocks : ¬ ['/', '*'] <:+: text)
    (h : Occurs noLockHint (.ofText text)) :
    hintRemedy ∈ remedies ((issuesIn (normalizeText text)).map Issue.kind) := by
  have hink : runs isInk text = runs isInk (normalizeText text) :=
    (runs_normalizeText hlines hblocks).symm
  have hoccurs := h.respaced ignoresSpacing_noLockHint beginsInk_noLockHint hink
  obtain ⟨hit, hfind⟩ := exists_find?_of_occurs hoccurs
  obtain ⟨issue, hissue, hkind⟩ : ∃ issue, dirtyReadRule (normalizeText text) = some issue ∧
      issue.kind = .dirtyRead :=
    ⟨_, by rw [dirtyReadRule, reportFirst, hfind, Option.map_some], rfl⟩
  have hmem : issue ∈ issuesIn (normalizeText text) :=
    List.mem_filterMap.mpr ⟨dirtyReadRule, by simp [rules], hissue⟩
  exact mem_remedies.mpr ⟨issue.kind, List.mem_map_of_mem hmem, by rw [hkind]; rfl⟩

theorem HintsOnly.remedied (h : HintsOnly text) (hinked : ∃ x ∈ text, isBlank x = false) :
    hintRemedy ∈ remedies ((issuesIn (normalizeText text)).map Issue.kind) :=
  hintRemedy_mem_remedies (h.not_pair (by decide)) (h.not_pair (by decide)) (h.occurs hinked)

end QueryTuning.Query

namespace QueryTuning.Analysis

open Query
open scoped List

/-- Where every text counts as parsing, a query with some content is revised to a blank text
exactly if it holds nothing but hints and blanks. -/
theorem blank_proposal_iff {dialect : Dialect} {o : Options} {query : String}
    (hparses : ∀ text, dialect.parses text = true) (hinked : isBlankString query = false) :
    isBlankString (proposal dialect o query) = true ↔
      o.attemptRevision = true ∧ HintsOnly query.toList := by
  have hsome : ∃ x ∈ query.toList, Text.isBlank x = false := by
    simpa [isBlankString, Text.isBlankText] using hinked
  have hnone : ¬ ∀ x ∈ query.toList, Text.isBlank x = true := by
    simpa using hsome
  unfold proposal
  split
  next hattempt =>
    have hsame : revision dialect query = revision .permissive query := revise_congr hparses _ _
    have htext : (revision dialect query).text =
        applyAll (remedies ((issuesOf query).map Issue.kind)) query.toList := by
      rw [hsame, revision, revise_permissive]
    have hlist : remedies ((issuesOf query).map Issue.kind) <+ [hintRemedy, selectionRemedy] :=
      remedies_sublist _
    rw [htext, isBlankString, String.toList_ofList, Text.isBlankText, List.all_eq_true,
      blank_applyAll_iff hlist, or_iff_right hnone]
    exact ⟨fun h => ⟨hattempt, h.2⟩, fun h => ⟨h.2.remedied hsome, h.2⟩⟩
  next hattempt => simp [hinked, hattempt]

end QueryTuning.Analysis
