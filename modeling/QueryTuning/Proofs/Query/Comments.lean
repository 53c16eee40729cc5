import QueryTuning.Proofs.Pattern.Scan
import QueryTuning.Proofs.Text.Runs
import QueryTuning.Query.Detection

/-!
# Comments and blanks

The three scans of a normal form, each as a function on texts: what lies outside line
comments, what lies outside block comments, and the text with single spaces. Together
they say what the normal form of any text is.
-/

set_option autoImplicit false

namespace QueryTuning.Query

open Pattern Text

/-- What lies outside line comments in a text that begins in one or not. The line break
after a comment lies outside it. -/
def live : (inComment : Bool) → List Char → List Char
  | _, [] => []
  | true, c :: cs => if c = '\n' then c :: live false cs else live true cs
  | false, c :: cs =>
    if c = '-' ∧ cs.head? = some '-' then live true cs else c :: live false cs

def endsInComment : (inComment : Bool) → List Char → Bool
  | inComment, [] => inComment
  | true, c :: cs => if c = '\n' then endsInComment false cs else endsInComment true cs
  | false, c :: cs =>
    if c = '-' ∧ cs.head? = some '-' then endsInComment true cs else endsInComment false cs

theorem live_nil (b : Bool) : live b [] = [] := by cases b <;> rfl

theorem endsInComment_nil (b : Bool) : endsInComment b [] = b := by cases b <;> rfl

theorem live_true (text : List Char) : live true text = live false (text.dropWhile notNewline) := by
  induction text with
  | nil => rfl
  | cons c cs ih =>
    by_cases hc : c = '\n'
    · simp [live, hc, notNewline]
    · have hkept : notNewline c = true := by simpa [notNewline] using hc
      rw [live, if_neg hc, List.dropWhile_cons_of_pos hkept, ih]

section

variable {s t : List Char}

theorem apart_of_cons {c : Char} (h : (c :: s).getLast? = some '-' → t.head? ≠ some '-') :
    s.getLast? = some '-' → t.head? ≠ some '-' := by
  intro hs
  apply h
  rw [List.getLast?_cons, hs]
  rfl

theorem opens_append_iff {c : Char} (h : (c :: s).getLast? = some '-' → t.head? ≠ some '-') :
    (c = '-' ∧ (s ++ t).head? = some '-') ↔ c = '-' ∧ s.head? = some '-' := by
  apply and_congr_right
  rintro rfl
  cases s with
  | nil => simpa using h rfl
  | cons d s => simp

/-- Hyphens on both sides of a cut may begin a comment; other texts can be read in parts. -/
theorem live_append (h : s.getLast? = some '-' → t.head? ≠ some '-') (b : Bool) :
    live b (s ++ t) = live b s ++ live (endsInComment b s) t := by
  induction s generalizing b with
  | nil => rw [List.nil_append, live_nil, endsInComment_nil, List.nil_append]
  | cons c s ih =>
    have hrest := ih (apart_of_cons h)
    cases b with
    | true => by_cases hc : c = '\n' <;> simp [live, endsInComment, hc, hrest]
    | false =>
      simp only [List.cons_append, live, endsInComment, opens_append_iff h]
      by_cases hc : c = '-' ∧ s.head? = some '-' <;> simp [hc, hrest]

theorem endsInComment_append (h : s.getLast? = some '-' → t.head? ≠ some '-') (b : Bool) :
    endsInComment b (s ++ t) = endsInComment (endsInComment b s) t := by
  induction s generalizing b with
  | nil => rw [List.nil_append, endsInComment_nil]
  | cons c s ih =>
    have hrest := ih (apart_of_cons h)
    cases b with
    | true => by_cases hc : c = '\n' <;> simp [endsInComment, hc, hrest]
    | false =>
      simp only [List.cons_append, endsInComment, opens_append_iff h]
      by_cases hc : c = '-' ∧ s.head? = some '-' <;> simp [hc, hrest]

end

/-- Text without two hyphens in a row is kept outside a comment. -/
theorem live_of_no_pair {s : List Char} (h : ¬ ['-', '-'] <:+: s) : live false s = s := by
  induction s with
  | nil => rfl
  | cons c s ih =>
    have hc : ¬ (c = '-' ∧ s.head? = some '-') := by
      rintro ⟨rfl, hs⟩
      obtain ⟨t, rfl⟩ := List.head?_eq_some_iff.mp hs
      exact h ⟨[], t, rfl⟩
    rw [live, if_neg hc, ih fun hs => h (hs.trans (List.suffix_cons c s).isInfix)]

theorem live_plain {s : List Char} (h : '-' ∉ s) : live false s = s :=
  live_of_no_pair fun hpair => h (hpair.subset (by simp))

theorem endsInComment_plain {s : List Char} (h : '-' ∉ s) : endsInComment false s = false := by
  induction s with
  | nil => rfl
  | cons c s ih =>
    have hc : ¬ (c = '-' ∧ s.head? = some '-') := by
      rintro ⟨rfl, -⟩
      simp at h
    rw [endsInComment, if_neg hc, ih (by simp_all)]

/-- The rest of a line is dropped in a comment. -/
theorem live_line {s : List Char} (h : '\n' ∉ s) : live true s = [] := by
  induction s with
  | nil => rfl
  | cons c s ih =>
    have hc : c ≠ '\n' := by
      rintro rfl
      simp at h
    rw [live, if_neg hc, ih (by simp_all)]

theorem endsInComment_line {s : List Char} (h : '\n' ∉ s) : endsInComment true s = true := by
  induction s with
  | nil => rfl
  | cons c s ih =>
    have hc : c ≠ '\n' := by
      rintro rfl
      simp at h
    rw [endsInComment, if_neg hc, ih (by simp_all)]

theorem ends_lineComment {c : Cursor} {rest : List Char} (hrest : c.rest = '-' :: '-' :: rest) :
    (ends lineComment c).head? = some (after notNewline ⟨some '-', rest⟩) :=
  head?_ends_seq_run0 (ends_word_spelled hrest)

theorem ends_lineComment_of_not {c : Cursor} (h : ¬ "--".toList <+: c.rest) :
    ends lineComment c = [] := by
  rw [lineComment, ends, ends_marks_of_not (by decide) h]
  rfl

theorem replaceFrom_lineComment (c : Cursor) :
    replaceFrom lineComment [] c = live false c.rest := by
  -- On the length of what is left, since a hit skips a whole comment.
  induction hn : c.rest.length using Nat.strongRecOn generalizing c with
  | _ n ih =>
    cases hrest : c.rest with
    | nil => rw [replaceFrom_end hrest, live_nil]
    | cons x xs =>
      by_cases hstart : x = '-' ∧ xs.head? = some '-'
      · obtain ⟨rest, rfl⟩ := List.head?_eq_some_iff.mp hstart.2
        obtain rfl := hstart.1
        have hshort : (after notNewline ⟨some '-', rest⟩).rest.length < c.rest.length := by
          have := (List.dropWhile_suffix (l := rest) notNewline).length_le
          simp only [hrest, after, List.length_cons]
          omega
        rw [replaceFrom_hit (ends_lineComment hrest) hshort, ih _ (hn ▸ hshort) _ rfl, live,
          if_pos hstart, live, if_neg (by decide), live_true]
        rfl
      · have hnone : ¬ "--".toList <+: c.rest := by
          rw [hrest]
          rintro ⟨t, ht⟩
          cases ht
          exact hstart ⟨rfl, rfl⟩
        rw [replaceFrom_none hrest (ends_lineComment_of_not hnone), live, if_neg hstart,
          ih xs.length (by simp [← hn, hrest]) _ rfl]

def afterClosing : List Char → Option (List Char)
  | [] => none
  | c :: cs => if c = '*' ∧ cs.head? = some '/' then some cs.tail else afterClosing cs

def afterBlock : List Char → Option (List Char)
  | '/' :: '*' :: cs => afterClosing cs
  | _ => none

theorem afterClosing_shorter {text rest : List Char} (h : afterClosing text = some rest) :
    rest.length < text.length := by
  induction text with
  | nil => simp [afterClosing] at h
  | cons c cs ih =>
    rw [afterClosing] at h
    split at h
    · obtain rfl := Option.some.inj h
      simp only [List.length_tail, List.length_cons]
      omega
    · have := ih h
      simp only [List.length_cons]
      omega

theorem afterBlock_shorter {text rest : List Char} (h : afterBlock text = some rest) :
    rest.length < text.length := by
  unfold afterBlock at h
  split at h
  · have := afterClosing_shorter h
    simp only [List.length_cons]
    omega
  · cases h

def outsideBlocks (text : List Char) : List Char :=
  match found : afterBlock text with
  | some rest =>
    have := afterBlock_shorter found
    outsideBlocks rest
  | none =>
    match text with
    | [] => []
    | c :: cs => c :: outsideBlocks cs
termination_by text.length

theorem outsideBlocks_comment {text rest : List Char} (h : afterBlock text = some rest) :
    outsideBlocks text = outsideBlocks rest := by
  rw [outsideBlocks]
  split
  next rest' found =>
    cases h.symm.trans found
    rfl
  next found => simp [h] at found

theorem outsideBlocks_nil : outsideBlocks [] = [] := by
  rw [outsideBlocks]
  rfl

theorem outsideBlocks_kept {c : Char} {cs : List Char} (h : afterBlock (c :: cs) = none) :
    outsideBlocks (c :: cs) = c :: outsideBlocks cs := by
  rw [outsideBlocks]
  split
  next rest found => simp [h] at found
  · rfl

theorem head?_closing (last : Option Char) (text : List Char) :
    (((Cursor.positionsAfter last text).flatMap (ends (word "*/"))).head?.map Cursor.rest) =
      afterClosing text := by
  induction text generalizing last with
  | nil => rfl
  | cons c cs ih =>
    rw [Cursor.positionsAfter, List.flatMap_cons, afterClosing]
    by_cases hclose : c = '*' ∧ cs.head? = some '/'
    · obtain ⟨rest, rfl⟩ := List.head?_eq_some_iff.mp hclose.2
      obtain rfl := hclose.1
      have hspelled : '*' :: '/' :: rest = "*/".toList ++ rest := rfl
      rw [if_pos hclose, ends_word_spelled hspelled]
      rfl
    · have hnone : ¬ "*/".toList <+: c :: cs := by
        rintro ⟨t, ht⟩
        cases ht
        exact hclose ⟨rfl, rfl⟩
      rw [if_neg hclose, ends_marks_of_not (by decide) hnone, List.nil_append, ih]

theorem ends_blockComment (c : Cursor) :
    (ends blockComment c).head?.map Cursor.rest = afterBlock c.rest := by
  have hflat : ends blockComment c = (ends (word "/*") c).flatMap fun d =>
      d.positions.flatMap (ends (word "*/")) := by
    have hlast : ends (sequence [word "*/"]) = ends (word "*/") := by
      funext d
      simp [Pattern.sequence, ends]
    rw [blockComment, sequence_cons, ends, sequence_cons]
    congr 1
    funext d
    rw [ends, ends_few_any, hlast]
  by_cases hopen : "/*".toList <+: c.rest
  · obtain ⟨rest, hrest⟩ := hopen
    rw [hflat, ends_word_spelled hrest.symm, List.flatMap_cons, List.flatMap_nil, List.append_nil,
      Cursor.positions, head?_closing, ← hrest]
    rfl
  · have hnone : afterBlock c.rest = none := by
      unfold afterBlock
      split
      next cs heq => exact absurd ⟨cs, by rw [heq]; rfl⟩ hopen
      · rfl
    rw [hflat, ends_marks_of_not (by decide) hopen, hnone]
    rfl

theorem replaceFrom_blockComment (c : Cursor) :
    replaceFrom blockComment [] c = outsideBlocks c.rest := by
  induction hn : c.rest.length using Nat.strongRecOn generalizing c with
  | _ n ih =>
    have hends := ends_blockComment c
    cases hblock : afterBlock c.rest with
    | some rest =>
      rw [hblock] at hends
      obtain ⟨d, hd, hdrest⟩ := Option.map_eq_some_iff.mp hends
      have hshort : d.rest.length < c.rest.length := hdrest ▸ afterBlock_shorter hblock
      rw [replaceFrom_hit hd hshort, ih _ (hn ▸ hshort) d rfl, hdrest,
        outsideBlocks_comment hblock]
      rfl
    | none =>
      cases hrest : c.rest with
      | nil => rw [replaceFrom_end hrest, outsideBlocks_nil]
      | cons x xs =>
        have hnone : ends blockComment c = [] := by
          rw [hblock] at hends
          simpa using hends
        rw [hrest] at hblock
        rw [replaceFrom_none hrest hnone, outsideBlocks_kept hblock,
          ih xs.length (by simp [← hn, hrest]) _ rfl]

theorem withoutComments_eq (text : List Char) :
    withoutComments text = outsideBlocks (live false text) := by
  rw [withoutComments, replaceAll_eq, replaceFrom_blockComment, replaceAll_eq,
    replaceFrom_lineComment]
  rfl

def squeezed : (afterBlank : Bool) → List Char → List Char
  | _, [] => []
  | afterBlank, c :: cs =>
    if isBlank c then (if afterBlank then [] else [' ']) ++ squeezed true cs
    else c :: squeezed false cs

theorem squeezed_true (text : List Char) :
    squeezed true text = squeezed false (text.dropWhile isBlank) := by
  induction text with
  | nil => rfl
  | cons c cs ih =>
    by_cases hc : isBlank c = true
    · simp [squeezed, hc, ih]
    · simp [squeezed, hc]

theorem replaceFrom_blanks (c : Cursor) :
    replaceFrom blanks1 [' '] c = squeezed false c.rest := by
  induction hn : c.rest.length using Nat.strongRecOn generalizing c with
  | _ n ih =>
    cases hrest : c.rest with
    | nil => rw [replaceFrom_end hrest]; rfl
    | cons x xs =>
      by_cases hx : isBlank x = true
      · have hshort : (after isBlank c).rest.length < c.rest.length := by
          have := (List.dropWhile_suffix (l := xs) isBlank).length_le
          simp only [after, hrest, List.dropWhile_cons_of_pos hx, List.length_cons]
          omega
        rw [blanks1, replaceFrom_hit (head?_ends_run1 hrest hx) hshort, ← blanks1,
          ih _ (hn ▸ hshort) _ rfl, squeezed, if_pos hx, squeezed_true]
        simp [after, hrest, hx]
      · have hx' : isBlank x = false := by simpa using hx
        rw [blanks1, replaceFrom_none hrest (ends_run1_of_not hrest hx'), ← blanks1, squeezed,
          if_neg hx, ih xs.length (by simp [← hn, hrest]) _ rfl]

theorem trimEnd_cons (c : Char) (cs : List Char) :
    trimEnd (c :: cs) =
      if trimEnd cs = [] then (if isBlank c then [] else [c]) else c :: trimEnd cs := by
  rw [trimEnd, trimEnd, List.reverse_cons, List.dropWhile_append]
  by_cases h : cs.reverse.dropWhile isBlank = []
  · by_cases hc : isBlank c = true <;> simp [h, hc]
  · simp [h]

theorem trimStart_squeezed_true (text : List Char) :
    trimStart (squeezed true text) = squeezed true text := by
  induction text with
  | nil => rfl
  | cons c cs ih =>
    by_cases hc : isBlank c = true
    · simpa [squeezed, hc] using ih
    · simp [squeezed, hc, trimStart]

theorem trimStart_squeezed (text : List Char) :
    trimStart (squeezed false text) = squeezed true text := by
  cases text with
  | nil => rfl
  | cons c cs =>
    by_cases hc : isBlank c = true
    · have hspace : isBlank ' ' = true := by decide
      have hrest := trimStart_squeezed_true cs
      simpa [squeezed, hc, trimStart, hspace] using hrest
    · simp [squeezed, hc, trimStart]

theorem trimEnd_squeezed (text : List Char) : trimEnd (squeezed true text) = tidy text := by
  induction text with
  | nil => rw [tidy_nil]; rfl
  | cons c cs ih =>
    by_cases hc : isBlank c = true
    · rw [squeezed, if_pos hc, if_pos rfl, List.nil_append, ih, tidy_cons_blank hc]
    · have hc' : isBlank c = false := by simpa using hc
      have hkept : trimEnd (squeezed true (c :: cs)) = c :: trimEnd (squeezed false cs) := by
        rw [squeezed, if_neg hc, trimEnd_cons, hc']
        split <;> simp_all
      -- A space comes after `c` exactly if blanks follow it and ink follows them.
      rw [hkept]
      cases cs with
      | nil => rw [tidy_cons_apart hc' startsOutside_nil, tidy_nil]; rfl
      | cons d ds =>
        by_cases hd : isBlank d = true
        · have hspace : squeezed false (d :: ds) = ' ' :: squeezed true (d :: ds) := by
            simp [squeezed, hd]
          rw [hspace, trimEnd_cons, ih, tidy_cons_apart hc' (startsOutside_cons.mpr (by
            simp [isInk, hd]))]
          rfl
        · have hd' : isBlank d = false := by simpa using hd
          have hsame : squeezed false (d :: ds) = squeezed true (d :: ds) := by
            simp [squeezed, hd]
          rw [hsame, ih, tidy_cons_joined hc' hd']

/-- The normal form of a text: what lies outside its comments, line comments first, with its
blanks tidied. -/
theorem normalizeText_eq (text : List Char) :
    normalizeText text = tidy (outsideBlocks (live false text)) := by
  have hblanks : collapseBlanks (withoutComments text) = squeezed false (withoutComments text) :=
    replaceFrom_blanks _
  rw [normalizeText, trim, hblanks, trimStart_squeezed, trimEnd_squeezed, withoutComments_eq]

end QueryTuning.Query
