import QueryTuning.Proofs.Query.Comments
import QueryTuning.Proofs.Text.Words

/-!
# Removing comments from a text

A commented text is code with comments between its stretches. A line comment leaves a
line break behind, a block comment nothing, provided that its closing mark is seen: two
hyphens on the last line of a block comment hide the mark. The normal form is then the
code with a space for every comment exactly if no block comment was all that stood
between two characters of the code.
-/

set_option autoImplicit false

namespace QueryTuning.Query

open Text

def LeavesLineOpen (text : List Char) : Prop :=
  ∃ u v, text = u ++ '-' :: '-' :: v ∧ '\n' ∉ v

theorem leavesLineOpen_cons {c : Char} {cs : List Char} :
    LeavesLineOpen (c :: cs) ↔
      (c = '-' ∧ ∃ v, cs = '-' :: v ∧ '\n' ∉ v) ∨ LeavesLineOpen cs := by
  constructor
  · rintro ⟨u, v, h, hv⟩
    cases u with
    | nil =>
      cases h
      exact .inl ⟨rfl, v, rfl, hv⟩
    | cons d u =>
      cases h
      exact .inr ⟨u, v, rfl, hv⟩
  · rintro (⟨rfl, v, rfl, hv⟩ | ⟨u, v, rfl, hv⟩)
    · exact ⟨[], v, rfl, hv⟩
    · exact ⟨c :: u, v, rfl, hv⟩

theorem endsInComment_iff (b : Bool) (text : List Char) :
    endsInComment b text = true ↔ (b = true ∧ '\n' ∉ text) ∨ LeavesLineOpen text := by
  induction text generalizing b with
  | nil => simp [endsInComment_nil, LeavesLineOpen]
  | cons c cs ih =>
    rw [leavesLineOpen_cons]
    cases b with
    | true =>
      by_cases hc : c = '\n'
      · simp [endsInComment, hc, ih]
      · rw [endsInComment, if_neg hc, ih]
        constructor
        · rintro (h | h)
          · exact .inl (by simpa [Ne.symm hc] using h)
          · exact .inr (.inr h)
        · rintro (h | ⟨-, v, rfl, hv⟩ | h)
          · exact .inl (by simpa [Ne.symm hc] using h)
          · exact .inl (by simpa using hv)
          · exact .inr h
    | false =>
      by_cases hstart : c = '-' ∧ cs.head? = some '-'
      · obtain ⟨v, rfl⟩ := List.head?_eq_some_iff.mp hstart.2
        rw [endsInComment, if_pos hstart, ih]
        simp [hstart.1]
      · rw [endsInComment, if_neg hstart, ih]
        constructor
        · rintro (h | h)
          · exact absurd h.1 (by simp)
          · exact .inr (.inr h)
        · rintro (h | ⟨rfl, v, rfl, -⟩ | h)
          · exact absurd h.1 (by simp)
          · exact absurd ⟨rfl, rfl⟩ hstart
          · exact .inr h

instance : DecidablePred LeavesLineOpen := fun text =>
  decidable_of_iff (endsInComment false text = true) (by simp [endsInComment_iff])

inductive Comment where
  | line (body : List Char)
  | block (body : List Char)

namespace Comment

def text : Comment → List Char
  | line body => '-' :: '-' :: (body ++ ['\n'])
  | block body => '/' :: '*' :: (body ++ ['*', '/'])

def WellFormed : Comment → Prop
  | line body => '\n' ∉ body
  | block body => ¬ ['/', '*'] <:+: body ∧ ¬ ['*', '/'] <:+: body

def HidesItsEnd : Comment → Prop
  | line _ => False
  | block body => LeavesLineOpen body

instance : DecidablePred WellFormed
  | line body => inferInstanceAs (Decidable ('\n' ∉ body))
  | block body => inferInstanceAs (Decidable (¬ ['/', '*'] <:+: body ∧ ¬ ['*', '/'] <:+: body))

instance : DecidablePred HidesItsEnd
  | line _ => inferInstanceAs (Decidable False)
  | block body => inferInstanceAs (Decidable (LeavesLineOpen body))

def gap : Comment → List Char
  | line _ => ['\n']
  | block _ => []

def unlined : Comment → List Char
  | line _ => ['\n']
  | block body => '/' :: '*' :: (live false body ++ ['*', '/'])

end Comment

def IsCode (text : List Char) : Prop := '-' ∉ text ∧ '/' ∉ text

instance : DecidablePred IsCode := fun text =>
  inferInstanceAs (Decidable ('-' ∉ text ∧ '/' ∉ text))

structure IsCommented (first : List Char) (rest : List (Comment × List Char)) : Prop where
  first : IsCode first
  rest : ∀ part ∈ rest, part.1.WellFormed ∧ IsCode part.2

instance (first : List Char) (rest : List (Comment × List Char)) :
    Decidable (IsCommented first rest) :=
  decidable_of_iff (IsCode first ∧ ∀ part ∈ rest, part.1.WellFormed ∧ IsCode part.2)
    ⟨fun h => ⟨h.1, h.2⟩, fun h => ⟨h.first, h.rest⟩⟩

def assembled (f : Comment → List Char) (first : List Char) (rest : List (Comment × List Char)) :
    List Char :=
  first ++ rest.flatMap fun part => f part.1 ++ part.2

variable {first : List Char} {rest : List (Comment × List Char)}

theorem assembled_cons (f : Comment → List Char) (k : Comment) (s : List Char) :
    assembled f first ((k, s) :: rest) = first ++ (f k ++ assembled f s rest) := by
  simp [assembled]

theorem IsCommented.tail {k : Comment} {s : List Char} (h : IsCommented first ((k, s) :: rest)) :
    k.WellFormed ∧ IsCommented s rest := by
  have hpart := h.rest (k, s) (by simp)
  exact ⟨hpart.1, hpart.2, fun part hp => h.rest part (by simp [hp])⟩

theorem live_code {s : List Char} (hs : '-' ∉ s) (t : List Char) :
    live false (s ++ t) = s ++ live false t := by
  rw [live_append, live_plain hs, endsInComment_plain hs]
  intro hlast
  exact absurd (List.mem_of_getLast? hlast) hs

theorem live_comment {k : Comment} (hk : k.WellFormed) (hend : ¬ k.HidesItsEnd) (t : List Char) :
    live false (k.text ++ t) = k.unlined ++ live false t := by
  cases k with
  | line body =>
    have hbody : live true (body ++ '\n' :: t) = '\n' :: live false t := by
      rw [live_append (by simp), live_line hk, endsInComment_line hk]
      simp [live]
    simpa [Comment.text, Comment.unlined, live] using hbody
  | block body =>
    have hclosed : endsInComment false body = false := by
      by_contra h
      rw [Bool.not_eq_false, endsInComment_iff] at h
      exact hend (h.resolve_left (by simp))
    have hbody : live false (body ++ '*' :: '/' :: t) =
        live false body ++ '*' :: '/' :: live false t := by
      rw [live_append (by simp), hclosed]
      simp [live]
    simpa [Comment.text, Comment.unlined, live] using hbody

theorem live_commented (h : IsCommented first rest)
    (hend : ∀ part ∈ rest, ¬ part.1.HidesItsEnd) :
    live false (assembled Comment.text first rest) = assembled Comment.unlined first rest := by
  induction rest generalizing first with
  | nil => simpa [assembled] using live_plain h.first.1
  | cons part rest ih =>
    obtain ⟨k, s⟩ := part
    obtain ⟨hk, hrest⟩ := h.tail
    rw [assembled_cons, assembled_cons, live_code h.first.1,
      live_comment hk (hend (k, s) (by simp)), ih hrest fun part hp => hend part (by simp [hp])]

theorem head?_live {b : Bool} {text : List Char} {y : Char} (hy : y ≠ '\n')
    (h : (live b text).head? = some y) : b = false ∧ text.head? = some y := by
  cases text with
  | nil => simp [live_nil] at h
  | cons c cs =>
    have hcomment : ∀ ds : List Char, (live true ds).head? ≠ some y := by
      intro ds hds
      induction ds with
      | nil => simp [live] at hds
      | cons d ds ih =>
        rw [live] at hds
        split at hds
        next hd => exact hy (by simpa [hd] using hds.symm)
        · exact ih hds
    cases b with
    | true => exact absurd h (hcomment _)
    | false =>
      rw [live] at h
      split at h
      · exact absurd h (hcomment _)
      · exact ⟨rfl, by simpa using h⟩

/-- Taking line comments out brings no two characters together, but for line breaks. -/
theorem pair_of_live {b : Bool} {text : List Char} {x y : Char} (hy : y ≠ '\n')
    (h : [x, y] <:+: live b text) : [x, y] <:+: text := by
  induction text generalizing b with
  | nil => simp [live_nil] at h
  | cons c cs ih =>
    -- What comes after a kept character and is no line break stood next to it before.
    have hkept : ∀ d : Bool, [x, y] <:+: c :: live d cs → [x, y] <:+: c :: cs := by
      intro d hpair
      rcases List.infix_cons_iff.mp hpair with hpre | hrest
      · obtain ⟨rfl, hstart⟩ := List.cons_prefix_cons.mp hpre
        have hhead : (live d cs).head? = some y := by
          obtain ⟨u, hu⟩ := hstart
          rw [← hu]
          rfl
        obtain ⟨ds, rfl⟩ := List.head?_eq_some_iff.mp (head?_live hy hhead).2
        exact ⟨[], ds, rfl⟩
      · exact (ih hrest).trans (List.suffix_cons c cs).isInfix
    cases b with
    | true =>
      rw [live] at h
      split at h
      · exact hkept _ h
      · exact (ih h).trans (List.suffix_cons c cs).isInfix
    | false =>
      rw [live] at h
      split at h
      · exact (ih h).trans (List.suffix_cons c cs).isInfix
      · exact hkept _ h

theorem afterClosing_block {body : List Char} (h : ¬ ['*', '/'] <:+: body) (t : List Char) :
    afterClosing (body ++ '*' :: '/' :: t) = some t := by
  induction body with
  | nil => simp [afterClosing]
  | cons c cs ih =>
    have hc : ¬ (c = '*' ∧ (cs ++ '*' :: '/' :: t).head? = some '/') := by
      rintro ⟨rfl, hhead⟩
      cases cs with
      | nil => simp at hhead
      | cons d cs =>
        obtain rfl : d = '/' := by simpa using hhead
        exact h ⟨[], cs, rfl⟩
    rw [List.cons_append, afterClosing, if_neg hc]
    exact ih fun hcs => h (hcs.trans (List.suffix_cons c cs).isInfix)

theorem outsideBlocks_code {s : List Char} (hs : '/' ∉ s) (t : List Char) :
    outsideBlocks (s ++ t) = s ++ outsideBlocks t := by
  induction s with
  | nil => rfl
  | cons c s ih =>
    have hc : c ≠ '/' := by
      rintro rfl
      simp at hs
    have hnone : afterBlock (c :: (s ++ t)) = none := by
      unfold afterBlock
      split
      next cs heq => exact absurd (List.cons.inj heq).1 hc
      · rfl
    rw [List.cons_append, outsideBlocks_kept hnone, ih (by simp_all), List.cons_append]

theorem outsideBlocks_unlined {k : Comment} (hk : k.WellFormed) (t : List Char) :
    outsideBlocks (k.unlined ++ t) = k.gap ++ outsideBlocks t := by
  cases k with
  | line body => exact outsideBlocks_code (s := ['\n']) (by decide) t
  | block body =>
    have hbody : ¬ ['*', '/'] <:+: live false body := fun h => hk.2 (pair_of_live (by decide) h)
    have hafter : afterBlock ((Comment.block body).unlined ++ t) = some t := by
      simpa [Comment.unlined, afterBlock] using afterClosing_block hbody t
    rw [outsideBlocks_comment hafter]
    rfl

theorem outsideBlocks_commented (h : IsCommented first rest) :
    outsideBlocks (assembled Comment.unlined first rest) = assembled Comment.gap first rest := by
  induction rest generalizing first with
  | nil =>
    have hfirst := outsideBlocks_code h.first.2 []
    rw [outsideBlocks_nil] at hfirst
    simpa [assembled] using hfirst
  | cons part rest ih =>
    obtain ⟨k, s⟩ := part
    obtain ⟨hk, hrest⟩ := h.tail
    rw [assembled_cons, assembled_cons, outsideBlocks_code h.first.2, outsideBlocks_unlined hk,
      ih hrest]

def KeepsApart : List Char → List (Comment × List Char) → Prop
  | _, [] => True
  | _, (.line _, s) :: rest => KeepsApart s rest
  | first, (.block _, s) :: rest =>
    (EndsOutside isInk first ∨ StartsOutside isInk (assembled Comment.gap s rest)) ∧
      KeepsApart s rest

instance decidableKeepsApart :
    (first : List Char) → (rest : List (Comment × List Char)) → Decidable (KeepsApart first rest)
  | _, [] => inferInstanceAs (Decidable True)
  | _, (.line _, s) :: rest => decidableKeepsApart s rest
  | first, (.block _, s) :: rest =>
    have := decidableKeepsApart s rest
    inferInstanceAs (Decidable ((EndsOutside isInk first ∨
      StartsOutside isInk (assembled Comment.gap s rest)) ∧ KeepsApart s rest))

def spaced (first : List Char) (rest : List (Comment × List Char)) : List Char :=
  [' '].intercalate (first :: rest.map Prod.snd)

theorem spaced_cons (k : Comment) (s : List Char) :
    spaced first ((k, s) :: rest) = first ++ ' ' :: spaced s rest := by
  simp [spaced, List.intercalate]

theorem runs_spaced_cons (k : Comment) (s : List Char) :
    runs isInk (spaced first ((k, s) :: rest)) =
      runs isInk first ++ runs isInk (spaced s rest) := by
  rw [spaced_cons, runs_append_cons (by decide)]

/-- Dropping comments without a trace can only join words, and does so exactly if one of
them kept two apart. -/
theorem runs_assembled (first : List Char) (rest : List (Comment × List Char)) :
    LeftIff (KeepsApart first rest) (runs isInk (assembled Comment.gap first rest))
      (runs isInk (spaced first rest)) := by
  induction rest generalizing first with
  | nil =>
    simp only [assembled, spaced, List.flatMap_nil, List.append_nil, List.map_nil,
      List.intercalate_singleton]
    exact .refl trivial _
  | cons part rest ih =>
    obtain ⟨k, s⟩ := part
    have hrest := (ih s).append_left (runs isInk first)
    rw [assembled_cons, runs_spaced_cons]
    cases k with
    | line body =>
      have hcut : runs isInk (first ++ (['\n'] ++ assembled Comment.gap s rest)) =
          runs isInk first ++ runs isInk (assembled Comment.gap s rest) :=
        runs_append_cons (by decide) _ _
      rw [Comment.gap, hcut]
      exact hrest
    | block body =>
      rw [Comment.gap, List.nil_append]
      by_cases hcut : EndsOutside isInk first ∨ StartsOutside isInk (assembled Comment.gap s rest)
      · rw [runs_append hcut]
        exact hrest.congr (and_iff_right hcut).symm
      · -- The word before the comment and the one after it are joined, so one is missing, and
        -- the rest of the text has no word to make up for it.
        have hjoined : (runs isInk (first ++ assembled Comment.gap s rest)).length <
            (runs isInk first ++ runs isInk (spaced s rest)).length := by
          obtain ⟨hleft, hright⟩ := not_or.mp hcut
          have := length_runs_append_joined hleft hright
          have := (ih s).length_le
          simp only [List.length_append]
          omega
        exact ⟨fun h => absurd h.1 hcut, fun _ => hjoined⟩

theorem tidy_eq_iff {s t : List Char} : tidy s = tidy t ↔ runs isInk s = runs isInk t := by
  constructor
  · intro h
    have := congrArg (runs isInk) h
    rwa [runs_tidy fun _ h => h, runs_tidy fun _ h => h] at this
  · intro h
    rw [tidy, h, tidy]

/-- The normal form of a commented text in which no closing mark is hidden. It is the code with
a space in place of each comment exactly if the comments kept no two characters apart. -/
theorem normal_form_of_commented (h : IsCommented first rest)
    (hend : ∀ part ∈ rest, ¬ part.1.HidesItsEnd) :
    normalizeText (assembled Comment.text first rest) = tidy (assembled Comment.gap first rest) ∧
      (normalizeText (assembled Comment.text first rest) = tidy (spaced first rest) ↔
        KeepsApart first rest) := by
  have hnormal : normalizeText (assembled Comment.text first rest) =
      tidy (assembled Comment.gap first rest) := by
    rw [normalizeText_eq, live_commented h hend, outsideBlocks_commented h]
  refine ⟨hnormal, ?_⟩
  rw [hnormal, tidy_eq_iff]
  exact (runs_assembled first rest).eq_iff

theorem line_and_open_block_removed :
    let rest := [(Comment.line " it's /* all".toList, "FROM t ".toList),
      (Comment.block " not -- this\n nor that ".toList, " WHERE x = 1".toList)]
    IsCommented "SELECT a".toList rest ∧ (∀ part ∈ rest, ¬ part.1.HidesItsEnd) ∧
      KeepsApart "SELECT a".toList rest ∧
      normalizeText (assembled Comment.text "SELECT a".toList rest) =
        "SELECT a FROM t WHERE x = 1".toList := by
  have hcommented : IsCommented "SELECT a".toList
      [(Comment.line " it's /* all".toList, "FROM t ".toList),
        (Comment.block " not -- this\n nor that ".toList, " WHERE x = 1".toList)] := by
    decide +kernel
  have hend : ∀ part ∈ [(Comment.line " it's /* all".toList, "FROM t ".toList),
      (Comment.block " not -- this\n nor that ".toList, " WHERE x = 1".toList)],
      ¬ part.1.HidesItsEnd := by
    decide +kernel
  have hapart : KeepsApart "SELECT a".toList
      [(Comment.line " it's /* all".toList, "FROM t ".toList),
        (Comment.block " not -- this\n nor that ".toList, " WHERE x = 1".toList)] := by
    decide +kernel
  exact ⟨hcommented, hend, hapart, ((normal_form_of_commented hcommented hend).2.mpr hapart).trans
    (by decide +kernel)⟩

/-- A closing mark behind two hyphens is not seen, and the code after it is lost with them. A
comment without blanks around it glues two words together. -/
theorem block_comments_change_code :
    (let first := "SELECT a ".toList
      let rest := [(Comment.block " old -- new ".toList, " FROM t".toList)]
      IsCommented first rest ∧
        normalizeText (assembled Comment.text first rest) = "SELECT a /* old".toList ∧
        tidy (spaced first rest) = "SELECT a FROM t".toList) ∧
    (let first := "SELECT a".toList
      let rest := [(Comment.block " x ".toList, "FROM t".toList)]
      IsCommented first rest ∧
        normalizeText (assembled Comment.text first rest) = "SELECT aFROM t".toList ∧
        tidy (spaced first rest) = "SELECT a FROM t".toList) := by
  decide +kernel

end QueryTuning.Query
