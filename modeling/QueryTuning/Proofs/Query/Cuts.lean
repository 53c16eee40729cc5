import QueryTuning.Proofs.Query.CommentRemoval
import QueryTuning.Query.Revision

/-!
# Cutting stretches out of a text

A remedy replaces stretches without hyphens, whose words do not matter, and keeps the
words around them apart. Where such a stretch begins in a line comment and takes the
line break that ends it, the comment goes on over the rest of the next line; elsewhere
the text keeps all of its words.
-/

set_option autoImplicit false

namespace QueryTuning.Query

open Pattern Text

structure Cut (replacement : List Char) (h : Hit) : Prop where
  hyphenless : '-' ∉ h.text
  words : lastingWords h.text = lastingWords replacement
  /-- No word that matters stands on a later line of the stretch. -/
  laterLines : ∀ u v, h.text = u ++ '\n' :: v → lastingWords v = []
  left : (∀ c, h.start.last = some c → isWord c = false) ∨ StartsOutside isWord h.text
  right : StartsOutside isWord h.stop.rest
  /-- Either nothing replaces the stretch and a blank or nothing comes next, or a word
  replaces a stretch that begins with one. -/
  apart : (replacement = [] ∧ StartsOutside isInk h.stop.rest) ∨
    (replacement ≠ [] ∧ (∀ c ∈ replacement, isWord c = true) ∧ ¬ StartsOutside isWord h.text)

variable {p : Pattern} {replacement : List Char} {c : Cursor}

theorem pair_append {x y : Char} {s t : List Char} (h : [x, y] <:+: s ++ t) :
    [x, y] <:+: s ∨ [x, y] <:+: t ∨ (s.getLast? = some x ∧ t.head? = some y) := by
  induction s with
  | nil => exact .inr (.inl h)
  | cons c s ih =>
    rcases List.infix_cons_iff.mp (show [x, y] <:+: c :: (s ++ t) from h) with hpre | hrest
    · obtain ⟨rfl, hstart⟩ := List.cons_prefix_cons.mp hpre
      obtain ⟨u, hu⟩ := hstart
      cases s with
      | nil => exact .inr (.inr ⟨rfl, by simp [show t = y :: u from hu.symm]⟩)
      | cons d s =>
        cases hu
        exact .inl ⟨[], s, rfl⟩
    · rcases ih hrest with h | h | ⟨hlast, hhead⟩
      · exact .inl (h.trans (List.suffix_cons c s).isInfix)
      · exact .inr (.inl h)
      · exact .inr (.inr ⟨by simp [List.getLast?_cons, hlast], hhead⟩)

/-- Replacing keeps what a text begins with outside of words. -/
theorem startsOutside_replaceFrom {q : Char → Bool} (hword : ∀ c, isWord c = true → q c = true)
    (hink : ∀ c, q c = true → isInk c = true) (hcuts : ∀ h ∈ hitsFrom p c, Cut replacement h)
    (hstart : StartsOutside q c.rest) : StartsOutside q (replaceFrom p replacement c) := by
  induction c using hit_induction p with
  | none c _ hsame => rwa [hsame]
  | first c before h hfirst ih =>
    rw [hfirst.replaced]
    rw [hfirst.rest] at hstart
    cases before with
    | cons x xs => simpa [startsOutside_cons] using hstart
    | nil =>
      rw [hfirst.hits] at hcuts
      -- The hit comes first. Nothing stands for it, and a blank comes next; or it begins with a
      -- word, and then the text does.
      rcases (hcuts h (by simp)).apart with ⟨rfl, hblank⟩ | ⟨-, -, htext⟩
      · exact ih (fun g hg => hcuts g (by simp [hg])) (hblank.mono hink)
      · obtain ⟨y, ys, htext'⟩ := List.exists_cons_of_ne_nil hfirst.text_ne_nil
        rw [htext', startsOutside_cons] at htext
        rw [htext', List.nil_append, List.cons_append, startsOutside_cons] at hstart
        simp [hword y (by simpa using htext)] at hstart

/-- Replacing brings no two marks together. -/
theorem pair_of_replaceFrom {x y : Char} (hx : isWord x = false) (hy : isWord y = false)
    (hyink : isInk y = true) (hcuts : ∀ h ∈ hitsFrom p c, Cut replacement h)
    (hpair : [x, y] <:+: replaceFrom p replacement c) : [x, y] <:+: c.rest := by
  induction c using hit_induction p with
  | none c _ hsame => rwa [hsame] at hpair
  | first c before h hfirst ih =>
    rw [hfirst.hits] at hcuts
    have hlater : ∀ g ∈ hitsFrom p h.stop, Cut replacement g := fun g hg => hcuts g (by simp [hg])
    have hrest : [x, y] <:+: replaceFrom p replacement h.stop → [x, y] <:+: c.rest := by
      intro hpair
      rw [hfirst.rest, ← List.append_assoc]
      exact (ih hlater hpair).trans (List.suffix_append _ _).isInfix
    rw [hfirst.replaced] at hpair
    rcases (hcuts h (by simp)).apart with ⟨rfl, hblank⟩ | ⟨hne, hwords, -⟩
    · rcases pair_append hpair with hpair | hpair | ⟨-, hhead⟩
      · rw [hfirst.rest]
        exact hpair.trans (List.prefix_append _ _).isInfix
      · exact hrest hpair
      · have := startsOutside_replaceFrom (fun _ => isInk_of_isWord) (fun _ h => h) hlater
          hblank y hhead
        simp [hyink] at this
    · have hnone : ∀ z ∈ replacement, z ≠ x ∧ z ≠ y := by
        intro z hz
        have hz := hwords z hz
        constructor <;> rintro rfl <;> simp_all
      rcases pair_append hpair with hpair | hpair | ⟨-, hhead⟩
      · rw [hfirst.rest]
        exact hpair.trans (List.prefix_append _ _).isInfix
      · rcases pair_append hpair with hpair | hpair | ⟨hlast, -⟩
        · exact absurd rfl (hnone x (hpair.subset (by simp))).1
        · exact hrest hpair
        · exact absurd rfl (hnone x (List.mem_of_getLast? hlast)).1
      · obtain ⟨z, zs, rfl⟩ := List.exists_cons_of_ne_nil hne
        obtain rfl : z = y := by simpa using hhead
        exact absurd rfl (hnone z (by simp)).2

theorem startsOutside_live {b : Bool} {text : List Char} (h : StartsOutside isWord text) :
    StartsOutside isWord (live b text) := by
  intro y hy
  by_cases hbreak : y = '\n'
  · rw [hbreak]
    decide
  · exact h y (head?_live hbreak hy).2

theorem startsOutside_live_true (text : List Char) : StartsOutside isWord (live true text) := by
  intro y hy
  by_cases hbreak : y = '\n'
  · rw [hbreak]
    decide
  · exact absurd (head?_live hbreak hy).1 (by decide)

/-- A text that does not end in a comment keeps its last character. -/
theorem getLast?_live {b : Bool} {text : List Char} (h : endsInComment b text = false) :
    (live b text).getLast? = text.getLast? := by
  induction text generalizing b with
  | nil => rw [live_nil]
  | cons c cs ih =>
    have hnil : cs = [] → endsInComment true cs = true := by
      rintro rfl
      rfl
    have hskip : endsInComment true cs = false → cs.getLast? = (c :: cs).getLast? := by
      intro hcs
      cases cs with
      | nil => simp [hnil] at hcs
      | cons d ds => simp
    cases b with
    | true =>
      by_cases hc : c = '\n'
      · rw [endsInComment, if_pos hc] at h
        rw [live, if_pos hc, List.getLast?_cons, ih h, List.getLast?_cons]
      · rw [endsInComment, if_neg hc] at h
        rw [live, if_neg hc, ih h, hskip h]
    | false =>
      by_cases hc : c = '-' ∧ cs.head? = some '-'
      · rw [endsInComment, if_pos hc] at h
        rw [live, if_pos hc, ih h, hskip h]
      · rw [endsInComment, if_neg hc] at h
        rw [live, if_neg hc, List.getLast?_cons, ih h, List.getLast?_cons]

/-- The words of a line that a comment grows over are those that are lost. -/
theorem lastingWords_live_line (text : List Char) :
    lastingWords (live false text) =
      lastingWords (live false (text.takeWhile notNewline)) ++ lastingWords (live true text) := by
  have hhead : (text.dropWhile notNewline).head? = none ∨
      (text.dropWhile notNewline).head? = some '\n' := by
    rcases hd : text.dropWhile notNewline with _ | ⟨d, ds⟩
    · exact .inl rfl
    · have := List.head_dropWhile_not notNewline (l := text) (by simp [hd])
      simp [hd, notNewline] at this
      simp [this]
  have hrest : ∀ b, live b (text.dropWhile notNewline) = live true text := by
    intro b
    rw [live_true]
    cases b with
    | false => rfl
    | true =>
      rw [live_true]
      congr 1
      rcases hd : text.dropWhile notNewline with _ | ⟨d, ds⟩
      · rfl
      · rw [hd] at hhead
        obtain rfl : d = '\n' := by simpa using hhead
        rfl
  have hsplit := live_append (s := text.takeWhile notNewline) (t := text.dropWhile notNewline)
    (by rintro - h; rcases hhead with hn | hn <;> simp [hn] at h) false
  rw [List.takeWhile_append_dropWhile, hrest] at hsplit
  rw [hsplit, lastingWords_append (.inr (startsOutside_live_true text))]

/-- A hit that begins in a line comment and goes beyond its line leaves no words to the rest of
the line on which it stops. -/
def SparesLine (p : Pattern) (replacement text : List Char) (h : Hit) : Prop :=
  LeavesLineOpen ((Cursor.ofText text).upTo h.start) → '\n' ∈ h.text →
    lastingWords (live false ((replaceFrom p replacement h.stop).takeWhile notNewline)) = []

section

variable {h : Hit} {before after : List Char} {b : Bool}

/-- Before a stretch outside comments the words end, also those that lie outside comments. -/
theorem Cut.endsOutside_live (hcut : Cut replacement h) (hspan : c.Spans before h.start)
    (hclosed : endsInComment b before = false) (hword : ¬ StartsOutside isWord h.text) :
    EndsOutside isWord (live b before) := by
  intro y hy
  rw [getLast?_live hclosed] at hy
  refine hcut.left.resolve_right hword y ?_
  rw [hspan.last, hy]
  rfl

theorem Cut.words_of_text (hcut : Cut replacement h) (hspan : c.Spans before h.start)
    (hclosed : endsInComment b before = false) (hnil : h.text ≠ []) :
    lastingWords (live b before ++ (h.text ++ live false h.stop.rest)) =
      lastingWords (live b before) ++
        (lastingWords replacement ++ lastingWords (live false h.stop.rest)) := by
  have hleft : EndsOutside isWord (live b before) ∨
      StartsOutside isWord (h.text ++ live false h.stop.rest) := by
    by_cases hword : StartsOutside isWord h.text
    · obtain ⟨x, xs, htext⟩ := List.exists_cons_of_ne_nil hnil
      rw [htext] at hword ⊢
      exact .inr (startsOutside_cons.mpr (startsOutside_cons.mp hword))
    · exact .inl (hcut.endsOutside_live hspan hclosed hword)
  rw [lastingWords_append hleft, lastingWords_append (.inr (startsOutside_live hcut.right)),
    hcut.words]

theorem Cut.words_of_replacement (hcut : Cut replacement h) (hspan : c.Spans before h.start)
    (hclosed : endsInComment b before = false) (hafter : StartsOutside isWord after) :
    lastingWords (live b before ++ (replacement ++ live false after)) =
      lastingWords (live b before) ++
        (lastingWords replacement ++ lastingWords (live false after)) := by
  have hstart := startsOutside_live (b := false) hafter
  rcases hcut.apart with ⟨rfl, -⟩ | ⟨-, -, hword⟩
  · rw [List.nil_append, lastingWords_append (.inr hstart), lastingWords_nil, List.nil_append]
  · rw [lastingWords_append (.inl (hcut.endsOutside_live hspan hclosed hword)),
      lastingWords_append (.inr hstart)]

theorem Cut.plain_replacement (hcut : Cut replacement h) :
    '-' ∉ replacement ∧ '\n' ∉ replacement := by
  rcases hcut.apart with ⟨rfl, -⟩ | ⟨-, hwords, -⟩
  · simp
  · constructor <;> intro hmem <;> exact absurd (hwords _ hmem) (by decide)

/-- The hyphens around a stretch begin no comment once it is replaced. -/
theorem Cut.live_replacement (hcut : Cut replacement h)
    (hafter : StartsOutside isInk h.stop.rest → StartsOutside isInk after) :
    live b (before ++ (replacement ++ after)) =
      live b before ++ live (endsInComment b before) (replacement ++ after) := by
  apply live_append
  intro _ hhead
  rcases hcut.apart with ⟨rfl, hblank⟩ | ⟨hne, hwords, -⟩
  · exact absurd (hafter hblank _ hhead) (by decide)
  · obtain ⟨z, zs, rfl⟩ := List.exists_cons_of_ne_nil hne
    obtain rfl : z = '-' := by simpa using hhead
    exact absurd (hwords '-' (by simp)) (by decide)

theorem Cut.live_text (hcut : Cut replacement h) (hnil : h.text ≠ []) :
    live b (before ++ (h.text ++ h.stop.rest)) = live b before ++
      (live (endsInComment b before) h.text ++
        live (endsInComment (endsInComment b before) h.text) h.stop.rest) := by
  have hhead : (h.text ++ h.stop.rest).head? ≠ some '-' := by
    obtain ⟨x, xs, htext⟩ := List.exists_cons_of_ne_nil hnil
    have := hcut.hyphenless
    rw [htext] at this ⊢
    rintro hx
    simp_all
  rw [live_append fun _ => hhead, live_append]
  exact fun hlast => absurd (List.mem_of_getLast? hlast) hcut.hyphenless

theorem Cut.getLast?_append (hcut : Cut replacement h) (hnil : h.text ≠ []) :
    (before ++ h.text).getLast? ≠ some '-' := by
  obtain ⟨y, hy⟩ := Option.isSome_iff_exists.mp (List.getLast?_isSome.mpr hnil)
  have hne : y ≠ '-' := by
    rintro rfl
    exact hcut.hyphenless (List.mem_of_getLast? hy)
  rw [List.getLast?_append, hy]
  simpa using hne

theorem Cut.endsInComment_text (hcut : Cut replacement h) (before : List Char) :
    endsInComment false (before ++ h.text) =
      endsInComment (endsInComment false before) h.text := by
  apply endsInComment_append
  intro _ hhead
  exact hcut.hyphenless (List.mem_of_head? hhead)

/-- What is lost when one stretch is replaced, given what is lost after it. -/
theorem Cut.leftIff (hcut : Cut replacement h) (hspan : c.Spans before h.start)
    (hnil : h.text ≠ []) (hword : StartsOutside isWord after)
    (hink : StartsOutside isInk h.stop.rest → StartsOutside isInk after) {P : Prop}
    (hrest : LeftIff P
      (lastingWords (live (endsInComment (endsInComment b before) h.text) after))
      (lastingWords (live (endsInComment (endsInComment b before) h.text) h.stop.rest))) :
    LeftIff ((endsInComment b before = true → '\n' ∈ h.text →
        lastingWords (live false (after.takeWhile notNewline)) = []) ∧ P)
      (lastingWords (live b (before ++ (replacement ++ after))))
      (lastingWords (live b (before ++ (h.text ++ h.stop.rest)))) := by
  obtain ⟨hhyphen, hbreak⟩ := hcut.plain_replacement
  rw [hcut.live_text hnil, hcut.live_replacement hink]
  cases hopen : endsInComment b before with
  | false =>
    rw [hopen, endsInComment_plain hcut.hyphenless] at hrest
    rw [endsInComment_plain hcut.hyphenless, live_plain hcut.hyphenless, live_code hhyphen,
      hcut.words_of_text hspan hopen hnil, hcut.words_of_replacement hspan hopen hword]
    exact ((hrest.append_left _).append_left _).congr (by simp)
  | true =>
    have hafter : live true (replacement ++ after) = live true after := by
      rw [live_append fun hlast => absurd (List.mem_of_getLast? hlast) hhyphen, live_line hbreak,
        endsInComment_line hbreak, List.nil_append]
    rw [hafter, lastingWords_append (.inr (startsOutside_live_true after))]
    rw [hopen] at hrest
    by_cases hlines : '\n' ∈ h.text
    -- The line break that ended the comment is gone, so it grows to the end of the line on which
    -- the stretch stops; what stands there is lost.
    · obtain ⟨u, v, htext, hu⟩ := List.eq_append_cons_of_mem hlines
      have hv : '-' ∉ v := fun hmem => hcut.hyphenless (by simp [htext, hmem])
      have hline : live true h.text = '\n' :: v ∧ endsInComment true h.text = false := by
        have hu' : u.getLast? = some '-' → ('\n' :: v).head? ≠ some '-' := by simp
        rw [htext, live_append hu', endsInComment_append hu', live_line hu, endsInComment_line hu]
        simp [live, endsInComment, live_plain hv, endsInComment_plain hv]
      rw [hline.2, lastingWords_live_line after] at hrest
      have hdead : lastingWords ('\n' :: v ++ live false h.stop.rest) =
          lastingWords (live false h.stop.rest) := by
        rw [List.cons_append, lastingWords_cons (by decide),
          lastingWords_append (.inr (startsOutside_live hcut.right)), hcut.laterLines u v htext,
          List.nil_append]
      have hbefore : StartsOutside isWord ('\n' :: v ++ live false h.stop.rest) :=
        startsOutside_cons.mpr (by decide)
      rw [hline.1, hline.2, lastingWords_append (.inr hbefore), hdead]
      exact (hrest.without_front.append_left _).congr (by simp [hlines])
    · rw [endsInComment_line hlines] at hrest ⊢
      rw [live_line hlines, List.nil_append,
        lastingWords_append (.inr (startsOutside_live_true _))]
      exact (hrest.append_left _).congr (by simp [hlines])

end

/-- Replacing cuts keeps all words outside comments exactly if every hit spares the line on which
it stops. -/
theorem words_replaceFrom {text u : List Char} (hspan : (Cursor.ofText text).Spans u c)
    (hu : u.getLast? ≠ some '-') (hcuts : ∀ h ∈ hitsFrom p c, Cut replacement h) :
    LeftIff (∀ h ∈ hitsFrom p c, SparesLine p replacement text h)
      (lastingWords (live (endsInComment false u) (replaceFrom p replacement c)))
      (lastingWords (live (endsInComment false u) c.rest)) := by
  induction c using hit_induction p generalizing u with
  | none c hnone hsame =>
    rw [hsame]
    exact .refl (by simp [hnone]) _
  | first c before h hfirst ih =>
    rw [hfirst.hits] at hcuts ⊢
    have hcut := hcuts h (by simp)
    have hlater : ∀ g ∈ hitsFrom p h.stop, Cut replacement g := fun g hg => hcuts g (by simp [hg])
    have hstart := hspan.append hfirst.kept
    -- The scan goes on behind the hit in the state in which the original text leaves it there.
    have hbefore : endsInComment (endsInComment false u) before =
        endsInComment false (u ++ before) :=
      (endsInComment_append (fun hlast => absurd hlast hu) false).symm
    have htext := hcut.endsInComment_text (u ++ before)
    have hrest := ih (hstart.append hfirst.text) (hcut.getLast?_append hfirst.text_ne_nil) hlater
    rw [htext, ← hbefore] at hrest
    have hstep := hcut.leftIff hfirst.kept hfirst.text_ne_nil
      (startsOutside_replaceFrom (fun _ h => h) (fun _ => isInk_of_isWord) hlater hcut.right)
      (startsOutside_replaceFrom (fun _ => isInk_of_isWord) (fun _ h => h) hlater) hrest
    rw [hfirst.replaced, hfirst.rest]
    apply hstep.congr
    have hspares : SparesLine p replacement text h ↔
        (endsInComment (endsInComment false u) before = true → '\n' ∈ h.text →
          lastingWords (live false
            ((replaceFrom p replacement h.stop).takeWhile notNewline)) = []) := by
      rw [SparesLine, hstart.upTo, hbefore, endsInComment_iff]
      simp
    rw [List.forall_mem_cons, hspares]

end QueryTuning.Query
