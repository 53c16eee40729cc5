import QueryTuning.Proofs.Pattern.Parts

/-!
# Choices and repetitions that are settled by what comes next

A pattern that takes some text is refused where its first character cannot come. A word among
several is chosen where it is the only one that comes next, and a word that is followed by no
further word character is the whole run of them. A repetition goes on as long as its next round is
accepted, and as few characters as possible are those before the first place at which the rest of
the pattern is accepted.
-/

set_option autoImplicit false

namespace QueryTuning.Pattern

open Text

variable {p q : Pattern} {c d m : Cursor} {t : List Char} {accepts : Char → Bool}

theorem matchesAt_eq : matchesAt p c = !(ends p c).isEmpty := by
  rw [matchesAt, run_eq_findSome?]
  cases ends p c <;> rfl

theorem ends_seq_of_left (h : ends p c = []) : ends (seq p q) c = [] := by
  rw [ends, h, List.flatMap_nil]

theorem ends_seq_of_right (h : ∀ m ∈ ends p c, ends q m = []) : ends (seq p q) c = [] := by
  rw [ends, List.flatMap_eq_nil_iff]
  exact h

theorem ends_seq_of_single (h : ends p c = [m]) : ends (seq p q) c = ends q m := by
  rw [ends, h, List.flatMap_singleton]

theorem ends_alt_eq_nil : ends (alt p q) c = [] ↔ ends p c = [] ∧ ends q c = [] := by
  rw [ends, List.append_eq_nil_iff]

theorem ends_letter_of_not {x y : Char} {xs : List Char} (hc : c.rest = x :: xs)
    (hx : folded x ≠ folded y) : ends (letter y) c = [] := by
  rw [letter, ends, hc]
  simp [hx]

/-- A pattern that takes some text is refused where none of its first characters comes. -/
theorem ends_of_opens {chars : List Char} (hp : mayBeEmpty p = false)
    (hopens : opensOutside chars p = true) (hc : ∀ x, c.rest.head? = some x → x ∈ chars) :
    ends p c = [] := by
  rw [List.eq_nil_iff_forall_not_mem]
  intro d hd
  obtain ⟨x, t, hspan, haccepts⟩ := cons_of_takes hp hd
  exact not_mem_of_opens hopens haccepts rfl (hc x (by rw [hspan.rest]; rfl))

theorem BeginsInk.seq_left (hp : BeginsInk p) : BeginsInk (seq p q) :=
  ⟨by simp [mayBeEmpty, hp.takes], by simp [opensOutside, hp.takes, hp.opens]⟩

theorem head?_ends_blanks0 (hc : StartsOutside isBlank c.rest) :
    (ends blanks0 c).head? = some c :=
  head?_ends_run0_spans (t := []) (by simp) (Cursor.spans_nil.mpr rfl) hc

theorem ends_blanks0_of_ink (hq : BeginsInk q) (hc : StartsOutside isBlank c.rest) :
    ends (seq blanks0 q) c = ends q c := by
  rw [ends_blanks0 hq, after_of_spans (t := []) (by simp) (Cursor.spans_nil.mpr rfl) hc]

/-- Blanks are passed over, and the pattern behind them is refused. -/
theorem ends_blanks0_of_opens {chars : List Char} (hq : BeginsInk q)
    (hopens : opensOutside chars q = true)
    (hc : ∀ x, (after isBlank c).rest.head? = some x → x ∈ chars) : ends (seq blanks0 q) c = [] := by
  rw [ends_blanks0 hq]
  exact ends_of_opens hq.takes hopens hc

theorem ends_blanks1_of_ink (h : StartsOutside isBlank c.rest) : ends (seq blanks1 q) c = [] := by
  refine ends_seq_of_left ?_
  rw [List.eq_nil_iff_forall_not_mem]
  intro d hd
  obtain ⟨x, t, hx, -, hspan⟩ := mem_ends_run1.mp hd
  rw [hspan.rest] at h
  simp [startsOutside_cons.mp h] at hx

theorem ends_word_of_not {s : String}
    (h : ¬ s.toList.map folded <+: c.rest.map folded) : ends (word s) c = [] := by
  rw [List.eq_nil_iff_forall_not_mem]
  intro d hd
  obtain ⟨t, ht, hspan⟩ := mem_ends_word.mp hd
  exact h ⟨d.rest.map folded, by rw [hspan.rest, List.map_append, ht]⟩

theorem head?_ends_notBefore (h : ends p c = []) : (ends (notBefore p) c).head? = some c := by
  rw [ends, h]
  rfl

theorem ends_notBefore_of_mem (hd : d ∈ ends p c) : ends (notBefore p) c = [] := by
  rw [ends]
  cases hends : ends p c with
  | nil => simp [hends] at hd
  | cons e es => rfl

theorem head?_ends_done : (ends (sequence []) c).head? = some c := rfl

theorem head?_ends_taken (hd : (ends p c).head? = some d) :
    (ends (optional p) c).head? = some d :=
  head?_ends_left hd

theorem head?_ends_skipped (hp : ends p c = []) : (ends (optional p) c).head? = some c :=
  head?_ends_right hp rfl

theorem ends_choice (ps : List Pattern) : ends (choice ps) c = ps.flatMap fun p => ends p c := by
  induction ps with
  | nil => simp [choice, ends]
  | cons p ps ih =>
    rw [List.flatMap_cons, ← ih]
    cases ps with
    | nil => simp [choice, ends]
    | cons q ps => rw [choice.eq_3 _ _ (by simp), ends]

theorem mem_ends_choice_words {ws : List String} :
    d ∈ ends (choice (ws.map word)) c ↔ ∃ w ∈ ws, d ∈ ends (word w) c := by
  rw [ends_choice, List.flatMap_map, List.mem_flatMap]

/-- A word is chosen where none of the words before it in the list comes next. -/
theorem head?_ends_choice_word {ws : List String} {w : String} (hw : w ∈ ws)
    (hspan : c.Spans w.toList d)
    (hearlier : ∀ v ∈ ws.takeWhile (· != w), ¬ v.toList.map folded <+: c.rest.map folded) :
    (ends (choice (ws.map word)) c).head? = some d := by
  rw [ends_choice, List.flatMap_map]
  induction ws with
  | nil => cases hw
  | cons v ws ih =>
    rw [List.flatMap_cons]
    by_cases hv : v = w
    · subst hv
      have hone : ends (word v) c = [d] := ends_letters rfl hspan
      rw [hone]
      rfl
    · rw [List.takeWhile_cons_of_pos (by simpa using hv)] at hearlier
      rw [ends_word_of_not (hearlier v (by simp)), List.nil_append]
      exact ih ((List.mem_cons.mp hw).resolve_left (Ne.symm hv)) fun u hu => hearlier u (by simp [hu])

/-- Two words one of which comes next agree as far as both go. -/
theorem prefix_cases {v w rest : List Char} (h : v.map folded <+: (w ++ rest).map folded) :
    v.map folded <+: w.map folded ∨ w.map folded <+: v.map folded := by
  rw [List.map_append] at h
  exact List.prefix_or_prefix_of_prefix h (List.prefix_append _ _)

theorem ends_word_of_apart {v w : String} {rest : List Char} (hc : c.rest = w.toList ++ rest)
    (hvw : ¬ v.toList.map folded <+: w.toList.map folded)
    (hwv : ¬ w.toList.map folded <+: v.toList.map folded) : ends (word v) c = [] := by
  refine ends_word_of_not fun hprefix => ?_
  rw [hc] at hprefix
  exact (prefix_cases hprefix).elim hvw hwv

theorem head?_ends_word {w : String} (h : c.Spans w.toList d) :
    (ends (word w) c).head? = some d := by
  rw [word, ends_letters rfl h, List.head?_cons]

theorem starts_ink_of_word {s : List Char} (hs : ∀ x ∈ s, isWord x = true) (hne : s ≠ []) :
    StartsOutside isBlank (s ++ t) := by
  obtain ⟨x, xs, rfl⟩ := List.exists_cons_of_ne_nil hne
  exact startsOutside_cons.mpr (isBlank_of_isWord (hs x (by simp)))

/-- A word behind which no word character comes is the run of word characters that comes next. -/
theorem folded_eq_of_mem_ends_word {s : String} {w rest : List Char}
    (hs : ∀ x ∈ s.toList, isWord x = true) (hd : d ∈ ends (word s) c)
    (hend : StartsOutside isWord d.rest) (hc : c.rest = w ++ rest)
    (hw : ∀ x ∈ w, isWord x = true) (hrest : StartsOutside isWord rest) :
    w.map folded = s.toList.map folded ∧ d.rest = rest := by
  obtain ⟨t, ht, hspan⟩ := mem_ends_word.mp hd
  obtain ⟨rfl, hsame⟩ := append_outside_inj (isWord_of_folded hs ht) hw hend hrest
    (hspan.rest.symm.trans hc)
  exact ⟨ht, hsame⟩

theorem head?_ends_boundary (h : atBoundary c = true) : (ends boundary c).head? = some c := by
  rw [ends, if_pos h, List.head?_cons]

theorem startsOutside_of_boundary {s : String} (hs : ∀ x ∈ s.toList, isWord x = true)
    (hne : s.toList ≠ []) (hd : d ∈ ends (word s) c) (hboundary : atBoundary d = true) :
    StartsOutside isWord d.rest := by
  obtain ⟨t, ht, hspan⟩ := mem_ends_word.mp hd
  have htne : t ≠ [] := by
    rintro rfl
    exact hne (by simpa using ht.symm)
  exact (atBoundary_behind (isWord_of_folded hs ht) htne hspan).mp hboundary

/-- A whole word within a text is among the words of the text. -/
theorem exists_run_of_word {w : String} {s u : List Char} {e : Cursor}
    (hw : ∀ x ∈ w.toList, isWord x = true) (hne : w.toList ≠ []) (hm : c.Spans s m)
    (hd : c.Spans (s ++ u) d) (hu : ∃ x ∈ u, isWord x = false) (hboundary : atBoundary m = true)
    (he : e ∈ ends (word w) m) (hend : StartsOutside isWord e.rest) :
    ∃ v ∈ runs isWord (s ++ u), v.map folded = w.toList.map folded := by
  obtain ⟨v, hv, hspan⟩ := mem_ends_word.mp he
  have hletters := isWord_of_folded hw hv
  have hvne : v ≠ [] := by
    rintro rfl
    exact hne (by simpa using hv.symm)
  have htexts : v ++ e.rest = u ++ d.rest := hspan.rest.symm.trans (hm.rest_within hd)
  obtain ⟨u', hu', rfl, hrest⟩ := split_of_append_eq hletters hu htexts
  have hu'start : StartsOutside isWord u' := by
    obtain ⟨x, xs, rfl⟩ := List.exists_cons_of_ne_nil hu'
    rw [hrest] at hend
    exact startsOutside_cons.mpr (startsOutside_cons.mp hend)
  have hs : EndsOutside isWord s := by
    intro y hy
    have hlast : m.last = some y := by rw [hm.last, hy, Option.some_or]
    exact (atBoundary_ahead hletters hvne hspan).mp hboundary y hlast
  refine ⟨v, ?_, hv⟩
  rw [runs_append (.inl hs), runs_append (.inr hu'start), runs_of_all hvne hletters]
  simp

theorem head?_manyEnds_cons {β : Type} {b : β} {budget : List β} (hm : (ends p c).head? = some m)
    (hd : (manyEnds (ends p) budget m).head? = some d) :
    (manyEnds (ends p) (b :: budget) c).head? = some d := by
  obtain ⟨ms, hms⟩ := List.head?_eq_some_iff.mp hm
  rw [manyEnds, hms, List.flatMap_cons, List.append_assoc, List.head?_append, hd, Option.some_or]

theorem head?_manyEnds_stop {β : Type} {budget : List β} (h : ends p c = []) :
    (manyEnds (ends p) budget c).head? = some c := by
  cases budget with
  | nil => rfl
  | cons b budget => rw [manyEnds, h, List.flatMap_nil, List.nil_append, List.head?_cons]

/-- As few characters as possible are none, or else one and then as few as possible. -/
theorem ends_few_one {x : Char} {xs : List Char} (hrest : c.rest = x :: xs)
    (hx : accepts x = true) :
    ends (few (one accepts)) c = c :: ends (few (one accepts)) ⟨some x, xs⟩ := by
  have hone : ends (one accepts) c = [⟨some x, xs⟩] := by simp [ends, hrest, hx]
  rw [ends, hrest, fewEnds, hone, List.flatMap_singleton]
  rfl

theorem mem_ends_few_one (hd : d ∈ ends (few (one accepts)) c) :
    ∃ t, (∀ x ∈ t, accepts x = true) ∧ c.Spans t d := by
  rw [ends] at hd
  obtain ⟨pieces, hpieces, hspan⟩ := pieces_of_mem_fewEnds hd
  refine ⟨pieces.flatten, ?_, hspan⟩
  intro x hx
  obtain ⟨piece, hpiece, hmem⟩ := List.mem_flatten.mp hx
  obtain ⟨y, hy, rfl⟩ := accepts_one (hpieces piece hpiece)
  rwa [List.mem_singleton.mp hmem]

/-- The rest of a pattern is found at the first place where it is accepted. -/
theorem head?_ends_few_one (ht : ∀ x ∈ t, accepts x = true) (hspan : c.Spans t m)
    (hearlier : ∀ s x u e, t = s ++ x :: u → c.Spans s e → ends q e = [])
    (hd : (ends q m).head? = some d) : (ends (seq (few (one accepts)) q) c).head? = some d := by
  induction t generalizing c with
  | nil =>
    obtain rfl := Cursor.spans_nil.mp hspan
    have hfirst : (ends (few (one accepts)) m).head? = some m := by
      rw [ends]
      cases m.rest <;> rfl
    exact head?_ends_seq hfirst hd
  | cons x t ih =>
    obtain ⟨e, hx, hlater⟩ := Cursor.spans_cons.mp hspan
    obtain ⟨xs, hrest, rfl⟩ := Cursor.spans_singleton.mp hx
    rw [ends, ends_few_one hrest (ht x (by simp)), List.flatMap_cons,
      hearlier [] x t c rfl (Cursor.spans_nil.mpr rfl), List.nil_append, ← ends]
    refine ih (fun y hy => ht y (by simp [hy])) hlater ?_
    rintro s y u e rfl he
    exact hearlier (x :: s) y u e rfl (hx.append he)

end QueryTuning.Pattern
