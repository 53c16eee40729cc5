import QueryTuning.Proofs.Query.Hints
import QueryTuning.Proofs.Text.JoinedWords

/-!
# The words around a hint

A hint is taken out together with the blanks before it. If a word follows it without a blank,
that word becomes one with the word before the hint. Nothing else brings the words of a query
together.
-/

set_option autoImplicit false

namespace QueryTuning.Query

open Pattern Text
open scoped List

variable {text t b v : List Char} {c d : Cursor} {x y : Char}

inductive HintRow : List Char → Prop where
  | nil : HintRow []
  | cons {b t rest : List Char} (hb : ∀ x ∈ b, isBlank x = true) (ht : IsHintText t)
      (hrest : HintRow rest) : HintRow (b ++ (t ++ rest))

def BeginsHint (text : List Char) : Prop := ∃ t rest, IsHintText t ∧ text = t ++ rest

/-- Between two words of the text there are blanks, a hint, and perhaps more hints; no blank
stands before the second word. -/
def HintJoins (text : List Char) : Prop :=
  ∃ before x b t row y after,
    text = before ++ x :: (b ++ (t ++ (row ++ y :: after))) ∧
      isWord x = true ∧ b ≠ [] ∧ (∀ z ∈ b, isBlank z = true) ∧ IsHintText t ∧ HintRow row ∧
      isWord y = true ∧ ¬ BeginsHint (y :: after)

/-- The text of a hint begins with a word. -/
theorem IsHintText.not_startsOutside (ht : IsHintText t) (rest : List Char) :
    ¬ StartsOutside isWord (t ++ rest) := by
  obtain ⟨w, b₁, b₂, n, b₃, hhint, rfl⟩ := ht
  obtain ⟨z, w, rfl⟩ := List.exists_cons_of_ne_nil (hhint.opening.ne_nil (by decide))
  have hz := hhint.opening.isWord (by decide) z (by simp)
  rw [List.append_assoc, List.cons_append, startsOutside_cons, hz]
  decide

theorem IsHintText.lastingWords (ht : IsHintText t) (hascii : ∀ x ∈ t, IsAscii x) :
    lastingWords t = [] := by
  obtain ⟨w, b₁, b₂, n, b₃, hhint, rfl⟩ := ht
  exact lastingWords_hint ⟨by decide, by decide, fun x hx => hascii x (by simp [hx]), hhint.opening⟩
    ⟨by decide, by decide, fun x hx => hascii x (by simp [hx]), hhint.hint⟩ hhint.gap hhint.margin
    hhint.rest

/-- Where a word ends in a text that begins with the letters of a word, that word ends, or one
after it. -/
theorem word_end {s rest front : List Char} (hs : ∀ z ∈ s, isWord z = true)
    (hv : StartsOutside isWord v) (h : s ++ rest = front ++ x :: v) :
    v = rest ∨ ∃ front', rest = front' ++ x :: v := by
  rcases List.append_eq_append_iff.mp h with ⟨front', -, hrest'⟩ | ⟨s', hs', hv'⟩
  · exact .inr ⟨front', hrest'⟩
  · cases s' with
    | nil => exact .inr ⟨[], by simpa using hv'.symm⟩
    | cons z s' =>
      obtain ⟨rfl, htail⟩ := List.cons.inj hv'
      cases s' with
      | nil => exact .inl htail
      | cons z' s' =>
        have hz' := hs z' (by simp [hs'])
        rw [htail, List.append_eq, List.cons_append, startsOutside_cons, hz'] at hv
        cases hv

/-- A word before blanks and another word does not end inside a hint. -/
theorem IsHintText.after_word (ht : IsHintText t) {rest front : List Char}
    (h : t ++ rest = front ++ x :: v) (hx : isWord x = true) (hv : StartsOutside isWord v)
    (hnext : ¬ StartsOutside isWord (v.dropWhile isBlank)) : ∃ front', rest = front' ++ x :: v := by
  obtain ⟨w, b₁, b₂, n, b₃, hhint, rfl⟩ := ht
  have hmark : ∀ {b : List Char} {z : Char} {rest : List Char}, (∀ x ∈ b, isBlank x = true) →
      isBlank z = false → isWord z = false → v ≠ b ++ z :: rest := by
    rintro b z rest hb hz hword rfl
    rw [dropWhile_append_outside hb (startsOutside_cons.mpr hz), startsOutside_cons] at hnext
    exact hnext hword
  have hpass : ∀ {b s front : List Char}, (∀ x ∈ b, isBlank x = true) →
      b ++ s = front ++ x :: v → ∃ front', s = front' ++ x :: v := by
    intro b s front hb h
    refine split_after (not_mem_of_blank hb ?_) h
    by_contra hblank
    simp [isWord_of_isBlank (by simpa using hblank)] at hx
  have hskip : ∀ {z : Char} {s front : List Char}, isWord z = false →
      z :: s = front ++ x :: v → ∃ front', s = front' ++ x :: v := by
    intro z s front hz h
    exact split_after (s := [z]) (by rintro hmem; simp_all) h
  simp only [List.append_assoc, List.cons_append, List.nil_append] at h
  rcases word_end (hhint.opening.isWord (by decide)) hv h with hv' | ⟨_, h⟩
  · exact absurd hv' (hmark hhint.gap (by decide) (by decide))
  obtain ⟨_, h⟩ := hpass hhint.gap h
  obtain ⟨_, h⟩ := hskip (by decide) h
  obtain ⟨_, h⟩ := hpass hhint.margin h
  rcases word_end (hhint.hint.isWord (by decide)) hv h with hv' | ⟨_, h⟩
  · exact absurd hv' (hmark hhint.rest (by decide) (by decide))
  obtain ⟨_, h⟩ := hpass hhint.rest h
  exact hskip (by decide) h

def Joins (h : Hit) : Prop :=
  (∃ x, h.start.last = some x ∧ isWord x = true) ∧
    ¬ StartsOutside isWord (replaceFrom noLockWithBlanks [] h.stop)

theorem last_of_mem_ends (hd : d ∈ ends noLockWithBlanks c) : d.last = some ')' := by
  obtain ⟨b, t, -, ht, hspan, -⟩ := hintText_of_mem_ends_withBlanks hd
  rw [hspan.last, List.getLast?_append, ht.getLast?_eq]
  rfl

theorem outside_of_mem_ends (hd : d ∈ ends noLockWithBlanks c) :
    ∀ y, d.last = some y → isWord y = false := by
  intro y hy
  rw [last_of_mem_ends hd] at hy
  cases hy
  decide

/-- At a place where no hint begins, and no blanks before one, the character stays. -/
theorem no_hit_at_word (hrest : c.rest = y :: v) (hy : isWord y = true)
    (hnone : ¬ BeginsHint (y :: v)) : ends noLockWithBlanks c = [] := by
  apply List.eq_nil_iff_forall_not_mem.mpr
  intro d hd
  obtain ⟨b, t, hb, ht, hspan, -⟩ := hintText_of_mem_ends_withBlanks hd
  have hcut := hspan.rest
  rw [hrest] at hcut
  cases b with
  | nil => exact hnone ⟨t, d.rest, ht, hcut⟩
  | cons z b =>
    obtain ⟨rfl, -⟩ := List.cons.inj hcut
    simp [isWord_of_isBlank (hb y (by simp))] at hy

/-- Of hints in a row nothing is left before the word after them. -/
theorem HintRow.taken {row : List Char} (hrow : HintRow row) (hrest : c.rest = row ++ y :: v)
    (hlast : ∀ z, c.last = some z → isWord z = false) (hy : isWord y = true)
    (hnone : ¬ BeginsHint (y :: v)) :
    ¬ StartsOutside isWord (replaceFrom noLockWithBlanks [] c) := by
  induction hrow generalizing c with
  | nil =>
    rw [replaceFrom_none hrest (no_hit_at_word hrest hy hnone), startsOutside_cons, hy]
    decide
  | cons hb ht _ ih =>
    simp only [List.append_assoc] at hrest
    obtain ⟨d, hends, hd, -, hshort⟩ := ht.taken hb hrest fun _ => hlast
    rw [replaceFrom_hit (by rw [hends]; rfl) hshort]
    exact ih hd (outside_of_mem_ends (by rw [hends]; exact List.mem_singleton_self d))

/-- What is left begins with a word only if there are hints in a row and then that word. -/
theorem exists_row (c : Cursor) (hlast : ∀ z, c.last = some z → isWord z = false)
    (hword : ¬ StartsOutside isWord (replaceFrom noLockWithBlanks [] c)) :
    ∃ row y after, c.rest = row ++ y :: after ∧ HintRow row ∧ isWord y = true ∧
      ¬ BeginsHint (y :: after) := by
  induction c using scan_induction noLockWithBlanks with
  | done c hrest =>
    rw [replaceFrom_end hrest] at hword
    exact absurd startsOutside_nil hword
  | hit c d hd hshort ih =>
    rw [replaceFrom_hit hd hshort] at hword
    have hmem := List.mem_of_head? hd
    obtain ⟨row, y, after, hrest, hrow, hy, hnone⟩ := ih (outside_of_mem_ends hmem) hword
    obtain ⟨b, t, hb, ht, hspan, -⟩ := hintText_of_mem_ends_withBlanks hmem
    exact ⟨b ++ (t ++ row), y, after, by rw [hspan.rest, hrest]; simp, .cons hb ht hrow, hy, hnone⟩
  | kept c x xs hrest hmiss _ =>
    rw [replaceFrom_kept hrest hmiss, startsOutside_cons, Bool.not_eq_false] at hword
    refine ⟨[], x, xs, hrest, .nil, hword, ?_⟩
    rintro ⟨t, rest, ht, hcut⟩
    obtain ⟨d, hends, -, -, hshort⟩ :=
      ht.taken (b := []) (by simp) (hrest.trans hcut) fun _ => hlast
    exact hmiss d (by rw [hends]; rfl) hshort

theorem hintJoins_of_joins {h : Hit} (hh : h ∈ hitsFrom noLockWithBlanks (.ofText text))
    (hjoins : Joins h) : HintJoins text := by
  obtain ⟨u, hspan, hstop⟩ := mem_hitsFrom hh
  obtain ⟨⟨x, hx, hword⟩, hnext⟩ := hjoins
  obtain ⟨b, t, hb, ht, hspan', hbehind⟩ := hintText_of_mem_ends_withBlanks hstop
  obtain ⟨row, y, after, hrest, hrow, hy, hnone⟩ :=
    exists_row h.stop (outside_of_mem_ends hstop) hnext
  have hu : u.getLast? = some x := by
    have hlast := hspan.last
    rw [hx] at hlast
    simpa [Cursor.ofText] using hlast.symm
  obtain ⟨before, rfl⟩ := List.getLast?_eq_some_iff.mp hu
  have htext : text = before ++ x :: (b ++ (t ++ (row ++ y :: after))) := by
    have hwhole : text = _ := (hspan.append hspan').rest
    rw [hwhole, hrest]
    simp
  refine ⟨before, x, b, t, row, y, after, htext, hword, ?_, hb, ht, hrow, hy, hnone⟩
  intro hempty
  simp [hbehind hempty x hx] at hword

/-- The word before the hints is passed by the scan, since no hit goes across its end. -/
theorem joins_of_text {before row after : List Char} (hx : isWord x = true) (hne : b ≠ [])
    (hb : ∀ z ∈ b, isBlank z = true) (ht : IsHintText t) (hrow : HintRow row)
    (hy : isWord y = true) (hnone : ¬ BeginsHint (y :: after)) (c : Cursor)
    (hrest : c.rest = before ++ x :: (b ++ (t ++ (row ++ y :: after)))) :
    ∃ h ∈ hitsFrom noLockWithBlanks c, Joins h := by
  induction c using scan_induction noLockWithBlanks generalizing before with
  | done c hdone => simp [hdone] at hrest
  | hit c d hd hshort ih =>
    have hstart : StartsOutside isWord (b ++ (t ++ (row ++ y :: after))) := by
      obtain ⟨z, b, rfl⟩ := List.exists_cons_of_ne_nil hne
      exact startsOutside_cons.mpr (isWord_of_isBlank (hb z (by simp)))
    have hnext : ¬ StartsOutside isWord
        ((b ++ (t ++ (row ++ y :: after))).dropWhile isBlank) := by
      rw [dropWhile_append_outside hb (ht.startsOutside _)]
      exact ht.not_startsOutside _
    obtain ⟨b', t', hb', ht', hspan, -⟩ :=
      hintText_of_mem_ends_withBlanks (List.mem_of_head? hd)
    have hcut : b' ++ (t' ++ d.rest) = before ++ x :: (b ++ (t ++ (row ++ y :: after))) := by
      rw [← hrest, hspan.rest, List.append_assoc]
    have hblank : isBlank x = false := by
      by_contra hblank
      simp [isWord_of_isBlank (by simpa using hblank)] at hx
    obtain ⟨_, hcut⟩ := split_after (not_mem_of_blank hb' hblank) hcut
    obtain ⟨_, hcut⟩ := ht'.after_word hcut hx hstart hnext
    obtain ⟨h, hh, hjoins⟩ := ih hcut
    exact ⟨h, by simp [hitsFrom_hit hd hshort, hh], hjoins⟩
  | kept c z zs hcons hmiss ih =>
    rw [hitsFrom_kept hcons hmiss]
    rw [hcons] at hrest
    cases before with
    | cons z' before => exact ih (List.cons.inj hrest).2
    | nil =>
      obtain ⟨rfl, rfl⟩ := List.cons.inj hrest
      obtain ⟨d, hends, hd, -, hshort⟩ :=
        ht.taken (c := ⟨some z, _⟩) hb rfl fun hempty => absurd hempty hne
      have hhead : (ends noLockWithBlanks ⟨some z, b ++ (t ++ (row ++ y :: after))⟩).head? =
          some d := by rw [hends]; rfl
      refine ⟨⟨⟨some z, _⟩, [d]⟩, by rw [hitsFrom_hit hhead hshort]; exact List.mem_cons_self,
        ⟨z, rfl, hx⟩, ?_⟩
      exact hrow.taken hd (outside_of_mem_ends (List.mem_of_head? hhead)) hy hnone

theorem hintJoins_iff :
    HintJoins text ↔ ∃ h ∈ hitsFrom noLockWithBlanks (.ofText text), Joins h := by
  constructor
  · rintro ⟨before, x, b, t, row, y, after, htext, hx, hne, hb, ht, hrow, hy, hnone⟩
    exact joins_of_text hx hne hb ht hrow hy hnone (.ofText text) htext
  · rintro ⟨h, hh, hjoins⟩
    exact hintJoins_of_joins hh hjoins

theorem joins_iff {h : Hit} {before : List Char} (hspan : c.Spans before h.start)
    (hlast : ∀ y, c.last = some y → isWord y = false) :
    Joins h ↔ ¬ (EndsOutside isWord before ∨
      StartsOutside isWord (replaceFrom noLockWithBlanks [] h.stop)) := by
  have hbefore : (∃ x, h.start.last = some x ∧ isWord x = true) ↔ ¬ EndsOutside isWord before := by
    rw [hspan.last]
    cases hend : before.getLast? with
    | none =>
      have hword : ¬ ∃ x, c.last = some x ∧ isWord x = true := by
        rintro ⟨x, hx, hword⟩
        simp [hlast x hx] at hword
      simpa [EndsOutside, hend] using hword
    | some x => simp [EndsOutside, hend]
  rw [Joins, hbefore, not_or]

theorem IsHintText.words_around (ht : IsHintText t) (hascii : ∀ x ∈ t, IsAscii x)
    (hb : ∀ x ∈ b, isBlank x = true) {before : List Char}
    (hbehind : b = [] → EndsOutside isWord before) (rest : List Char) :
    Text.lastingWords (before ++ (b ++ (t ++ rest))) =
      Text.lastingWords before ++ Text.lastingWords rest := by
  have hapart : EndsOutside isWord before ∨ StartsOutside isWord (b ++ (t ++ rest)) := by
    cases b with
    | nil => exact .inl (hbehind rfl)
    | cons z b => exact .inr (startsOutside_cons.mpr (isWord_of_isBlank (hb z (by simp))))
  have hend : EndsOutside isWord t := by
    intro y hy
    rw [ht.getLast?_eq] at hy
    cases hy
    decide
  rw [lastingWords_append hapart, (wordless_of_blank hb).lastingWords,
    lastingWords_append (.inl hend), ht.lastingWords hascii, List.nil_append]

/-- Taking the hints out keeps the words exactly if no hit joins two. -/
theorem words_taken_out (c : Cursor) (hlast : ∀ y, c.last = some y → isWord y = false)
    (hascii : ∀ x ∈ c.rest, IsAscii x) :
    LighterUnless (∀ h ∈ hitsFrom noLockWithBlanks c, ¬ Joins h)
      (lastingWords (replaceFrom noLockWithBlanks [] c)) (lastingWords c.rest) := by
  induction c using hit_induction noLockWithBlanks with
  | none c hnone hsame =>
    rw [hsame]
    exact ⟨fun _ => rfl, fun hjoins => absurd (by simp [hnone]) hjoins⟩
  | first c before h hfirst ih =>
    have hstop := List.mem_of_head? hfirst.stop
    obtain ⟨b, t, hb, ht, hspan, hbehind⟩ := hintText_of_mem_ends_withBlanks hstop
    have hrest : c.rest = before ++ (b ++ (t ++ h.stop.rest)) := by
      rw [hfirst.kept.rest, hspan.rest, List.append_assoc]
    rw [hrest] at hascii
    have hlater := ih (outside_of_mem_ends hstop) fun x hx => hascii x (by simp [hx])
    have hend : b = [] → EndsOutside isWord before := by
      intro hempty y hy
      refine hbehind hempty y ?_
      rw [hfirst.kept.last, hy]
      rfl
    rw [hfirst.replaced, hrest, ht.words_around (fun x hx => hascii x (by simp [hx])) hb hend]
    apply hlater.append_left.congr
    rw [hfirst.hits, List.forall_mem_cons, joins_iff hfirst.kept hlast, not_not]

theorem words_hintRemedy (hascii : ∀ x ∈ text, IsAscii x) :
    LighterUnless (¬ HintJoins text) (lastingWords (hintRemedy.apply text)) (lastingWords text) :=
  (words_taken_out (.ofText text) (by simp [Cursor.ofText]) hascii).congr (by
    rw [hintJoins_iff]
    simp)

/-- Replacing cuts keeps the words, comments or not. -/
theorem words_of_cuts {p : Pattern} {r : List Char} (c : Cursor)
    (hcuts : ∀ h ∈ hitsFrom p c, Cut r h) :
    lastingWords (replaceFrom p r c) = lastingWords c.rest := by
  induction c using hit_induction p with
  | none c _ hsame => rw [hsame]
  | first c before h hfirst ih =>
    rw [hfirst.hits] at hcuts
    have hcut := hcuts h (by simp)
    have hlater : ∀ g ∈ hitsFrom p h.stop, Cut r g := fun g hg => hcuts g (by simp [hg])
    have hafter : StartsOutside isWord (replaceFrom p r h.stop) :=
      startsOutside_replaceFrom (fun _ h => h) (fun _ => isInk_of_isWord) hlater hcut.right
    have hend : ¬ StartsOutside isWord h.text → EndsOutside isWord before := by
      intro hword y hy
      refine hcut.left.resolve_right hword y ?_
      rw [hfirst.kept.last, hy]
      rfl
    have htext : EndsOutside isWord before ∨ StartsOutside isWord (h.text ++ h.stop.rest) := by
      by_cases hword : StartsOutside isWord h.text
      · obtain ⟨x, xs, hcons⟩ := List.exists_cons_of_ne_nil hfirst.text_ne_nil
        rw [hcons] at hword ⊢
        exact .inr (startsOutside_cons.mpr (startsOutside_cons.mp hword))
      · exact .inl (hend hword)
    have hreplaced : EndsOutside isWord before ∨
        StartsOutside isWord (r ++ replaceFrom p r h.stop) := by
      rcases hcut.apart with ⟨rfl, -⟩ | ⟨-, -, hword⟩
      · exact .inr hafter
      · exact .inl (hend hword)
    rw [hfirst.replaced, hfirst.rest, lastingWords_append htext, lastingWords_append hreplaced,
      lastingWords_append (.inr hcut.right), lastingWords_append (.inr hafter), hcut.words,
      ih hlater]

theorem words_applyAll_iff {rs : List Remedy} (hrs : rs <+ [hintRemedy, selectionRemedy])
    (hascii : ∀ x ∈ text, IsAscii x) :
    lastingWords (applyAll rs text) = lastingWords text ↔ (hintRemedy ∈ rs → ¬ HintJoins text) := by
  have hselections : ∀ {rs : List Remedy} {text : List Char}, rs <+ [selectionRemedy] →
      (∀ x ∈ text, IsAscii x) → lastingWords (applyAll rs text) = lastingWords text := by
    intro rs text hrs hascii
    rcases List.sublist_singleton.mp hrs with rfl | rfl
    · rfl
    · exact words_of_cuts (.ofText text) (cuts_selectionRemedy hascii)
  rcases List.sublist_cons_iff.mp hrs with hnone | ⟨later, rfl, hlater⟩
  · simp [hselections hnone hascii, hintRemedy_not_mem hnone]
  · have hleft : ∀ x ∈ hintRemedy.apply text, IsAscii x :=
      Remedy.ascii_apply (by simp [hintRemedy]) hascii
    rw [applyAll, List.foldl_cons, ← applyAll, hselections hlater hleft,
      (words_hintRemedy hascii).eq_iff]
    simp

theorem HintJoins.occurs (h : HintJoins text) : Occurs noLockHint (.ofText text) := by
  obtain ⟨before, x, b, t, row, y, after, rfl, -, hne, hb, ht, -⟩ := h
  have hcut : (Cursor.ofText (before ++ x :: (b ++ (t ++ (row ++ y :: after))))).rest =
      (before ++ [x]) ++ (b ++ (t ++ (row ++ y :: after))) := by simp [Cursor.ofText]
  obtain ⟨c, hspan, hrest⟩ := exists_spans hcut
  obtain ⟨m, d, hspan', -, -, hends⟩ := ht.found hb hrest fun hempty => absurd hempty hne
  exact ⟨_, m, d, hspan.append hspan', by rw [hends]; exact List.mem_singleton_self d⟩

/-- A query of ASCII without comments, revised for the issues found in it, keeps the words that no
remedy takes out, and keeps them apart, exactly if no hint joins two words. -/
theorem revised_words_stay_apart {dialect : Dialect} (hparses : ∀ text, dialect.parses text = true)
    {query : String} (hascii : ∀ c ∈ query.toList, IsAscii c)
    (hlines : ¬ ['-', '-'] <:+: query.toList) (hblocks : ¬ ['/', '*'] <:+: query.toList) :
    (isBlankString query = true ∧ detect query = .error .blankQueryText) ∨
      ∃ issues, detect query = .ok issues ∧
        (lastingWords (revise dialect (issues.map Issue.kind) query).text =
          lastingWords query.toList ↔ ¬ HintJoins query.toList) := by
  cases hblank : isBlankString query with
  | true => exact .inl ⟨rfl, by simp [detect, hblank]⟩
  | false =>
    refine .inr ⟨issuesIn (normalizeText query.toList), by simp [detect, hblank], ?_⟩
    have hsame : ∀ text, dialect.parses text = Dialect.permissive.parses text := hparses
    rw [revise_congr hsame, revise_permissive, words_applyAll_iff (remedies_sublist _) hascii]
    exact ⟨fun h hjoins => h (hintRemedy_mem_remedies hlines hblocks hjoins.occurs) hjoins,
      fun h _ => h⟩

def spacedQuery : String :=
  "SELECT DISTINCT a FROM (t WITH (NOLOCK)) JOIN u\twith(nolock)With(NoLock) ON b"

theorem spaced_words_stay_apart :
    (∀ text, Dialect.permissive.parses text = true) ∧ (∀ c ∈ spacedQuery.toList, IsAscii c) ∧
      ¬ ['-', '-'] <:+: spacedQuery.toList ∧ ¬ ['/', '*'] <:+: spacedQuery.toList ∧
      ¬ HintJoins spacedQuery.toList ∧
      ∃ issues, detect spacedQuery = .ok issues ∧
        (revise .permissive (issues.map Issue.kind) spacedQuery).text =
          "SELECT a FROM (t) JOIN u ON b".toList ∧
        lastingWords (revise .permissive (issues.map Issue.kind) spacedQuery).text =
          lastingWords spacedQuery.toList := by
  have hparses : ∀ text, Dialect.permissive.parses text = true := fun _ => rfl
  have hascii : ∀ c ∈ spacedQuery.toList, IsAscii c := by decide +kernel
  have hlines : ¬ ['-', '-'] <:+: spacedQuery.toList := by decide +kernel
  have hblocks : ¬ ['/', '*'] <:+: spacedQuery.toList := by decide +kernel
  have hkinds : (issuesIn (normalizeText spacedQuery.toList)).map Issue.kind =
      [.dirtyRead, .unnecessaryDistinct] := by decide +kernel
  rcases revised_words_stay_apart hparses hascii hlines hblocks with
    ⟨hblank, -⟩ | ⟨issues, hissues, hiff⟩
  · exact absurd hblank (by decide +kernel)
  · have hfound : issues = issuesIn (normalizeText spacedQuery.toList) := by
      rw [detect, if_neg (by decide +kernel)] at hissues
      exact (Except.ok.inj hissues).symm
    have htext : (revise .permissive (issues.map Issue.kind) spacedQuery).text =
        "SELECT a FROM (t) JOIN u ON b".toList := by
      rw [hfound, hkinds]
      decide +kernel
    have hwords : lastingWords (revise .permissive (issues.map Issue.kind) spacedQuery).text =
        lastingWords spacedQuery.toList := by
      rw [htext]
      decide +kernel
    exact ⟨hparses, hascii, hlines, hblocks, hiff.mp hwords, issues, hissues, htext, hwords⟩

/-- The blank before the hint goes with it, so the table and the keyword after it become one
word. -/
theorem hint_joins_table_and_keyword :
    let query := "SELECT Id FROM Orders WITH (NOLOCK)WHERE Id = 1"
    (∀ c ∈ query.toList, IsAscii c) ∧ (∀ c ∈ query.toList, c ≠ '\'' ∧ c ≠ '\x22') ∧
      ¬ ['-', '-'] <:+: query.toList ∧ ¬ ['/', '*'] <:+: query.toList ∧
      ∃ issues, detect query = .ok issues ∧
        (revise .permissive (issues.map Issue.kind) query).text =
          "SELECT Id FROM OrdersWHERE Id = 1".toList ∧
        lastingWords (revise .permissive (issues.map Issue.kind) query).text ≠
          lastingWords query.toList := by
  intro query
  have hkinds : (issuesIn (normalizeText query.toList)).map Issue.kind = [.dirtyRead] := by
    decide +kernel
  refine ⟨by decide +kernel, by decide +kernel, by decide +kernel, by decide +kernel,
    issuesIn (normalizeText query.toList), ?_, ?_⟩
  · rw [detect, if_neg (by decide +kernel)]
  · rw [hkinds]
    decide +kernel

end QueryTuning.Query
