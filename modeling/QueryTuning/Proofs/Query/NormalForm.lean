import QueryTuning.Proofs.Pattern.Lines
import QueryTuning.Proofs.Query.Comments
import QueryTuning.Proofs.Text.Margins
import QueryTuning.Query.Vocabulary

/-!
# The normal form of a query is one line

A normal form is no longer than its query, and its only blanks are single spaces between other
characters. So it has no line breaks, and the patterns for filters and projections, which take the
characters of a line and stop at its end, go through all of it: they find what they would find if
line breaks were characters like any others.
-/

set_option autoImplicit false

namespace QueryTuning.Query

open Pattern Text

variable {text : List Char}

theorem length_normalizeText_le (text : List Char) : (normalizeText text).length ≤ text.length := by
  have hremoved : ∀ (p : Pattern) (t : List Char), (replaceAll p [] t).length ≤ t.length :=
    fun _ t => length_replaceFrom_le (by simp) (Cursor.ofText t)
  have hcollapsed : ∀ t : List Char, (collapseBlanks t).length ≤ t.length :=
    fun t => length_replaceFrom_le (by simp) (Cursor.ofText t)
  calc (normalizeText text).length
      ≤ (collapseBlanks (withoutComments text)).length := (trim_isInfix _).length_le
    _ ≤ (withoutComments text).length := hcollapsed _
    _ ≤ (replaceAll lineComment [] text).length := hremoved _ _
    _ ≤ text.length := hremoved _ _

def SinglySpaced (text : List Char) : Prop :=
  ∀ u b v, text = u ++ b :: v → isBlank b = true →
    b = ' ' ∧ (∃ x ∈ u.getLast?, isBlank x = false) ∧ ∃ y ∈ v.head?, isBlank y = false

theorem singlySpaced_nil : SinglySpaced [] := by
  intro u b v h
  simp at h

theorem singlySpaced_cons {c : Char} (hc : isBlank c = false) (h : SinglySpaced text) :
    SinglySpaced (c :: text) := by
  intro u b v heq hb
  cases u with
  | nil =>
    obtain ⟨rfl, -⟩ := List.cons.inj heq
    simp [hc] at hb
  | cons x u =>
    obtain ⟨rfl, hrest⟩ := List.cons.inj heq
    obtain ⟨hspace, ⟨y, hy, hink⟩, hafter⟩ := h u b v hrest hb
    have hlast : u.getLast? = some y := hy
    exact ⟨hspace, ⟨y, by simp [List.getLast?_cons, hlast], hink⟩, hafter⟩

theorem singlySpaced_space {c d : Char} (hc : isBlank c = false) (hd : isBlank d = false)
    (h : SinglySpaced (d :: text)) : SinglySpaced (c :: ' ' :: d :: text) := by
  intro u b v heq hb
  match u with
  | [] =>
    obtain ⟨rfl, -⟩ := List.cons.inj heq
    simp [hc] at hb
  | [x] =>
    simp only [List.cons_append, List.nil_append, List.cons.injEq] at heq
    obtain ⟨rfl, rfl, rfl⟩ := heq
    exact ⟨rfl, ⟨c, rfl, hc⟩, ⟨d, rfl, hd⟩⟩
  | x :: y :: u =>
    simp only [List.cons_append, List.cons.injEq] at heq
    obtain ⟨hspace, ⟨z, hz, hink⟩, hafter⟩ := h u b v heq.2.2 hb
    have hlast : u.getLast? = some z := hz
    exact ⟨hspace, ⟨z, by simp [List.getLast?_cons, hlast], hink⟩, hafter⟩

theorem SinglySpaced.startsOutside (h : SinglySpaced text) : StartsOutside isBlank text := by
  intro c hc
  obtain ⟨v, rfl⟩ := List.head?_eq_some_iff.mp hc
  by_contra hblank
  obtain ⟨-, ⟨x, hx, -⟩, -⟩ := h [] c v rfl (by simpa using hblank)
  cases hx

theorem SinglySpaced.newline_not_mem (h : SinglySpaced text) : '\n' ∉ text := by
  intro hmem
  obtain ⟨u, v, huv⟩ := List.append_of_mem hmem
  exact absurd (h u '\n' v huv (by decide)).1 (by decide)

theorem singlySpaced_tidy (text : List Char) : SinglySpaced (tidy text) := by
  induction text with
  | nil =>
    rw [tidy_nil]
    exact singlySpaced_nil
  | cons c cs ih =>
    by_cases hblank : isBlank c = true
    · rw [tidy_cons_blank hblank]
      exact ih
    · have hc : isBlank c = false := by simpa using hblank
      -- A space follows `c` only if blanks do and other characters come after them.
      by_cases hstart : StartsOutside isInk cs
      · rw [tidy_cons_apart hc hstart]
        cases htidy : tidy cs with
        | nil => exact singlySpaced_cons hc singlySpaced_nil
        | cons d ds =>
          rw [htidy] at ih
          exact singlySpaced_space hc (startsOutside_cons.mp ih.startsOutside) ih
      · obtain ⟨d, ds, rfl⟩ : ∃ d ds, cs = d :: ds := by
          refine List.exists_cons_of_ne_nil ?_
          rintro rfl
          exact hstart startsOutside_nil
        have hd : isBlank d = false := by simpa [startsOutside_cons, isInk] using hstart
        rw [tidy_cons_joined hc hd]
        exact singlySpaced_cons hc ih

theorem singlySpaced_normalizeText (text : List Char) : SinglySpaced (normalizeText text) := by
  rw [normalizeText_eq]
  exact singlySpaced_tidy _

def filterOpeningOver (accepts : Char → Bool) : Pattern :=
  sequence [boundary, choice [word "WHERE", word "ON", word "HAVING"], boundary,
    few (seq (notBefore filterEnd) (one accepts)), boundary]

def projectionOver (accepts : Char → Bool) (stop : Pattern) : List Pattern :=
  [wholeWord "SELECT", few (one accepts), alt (wholeWord "FROM") stop]

theorem filterOpening_eq : filterOpening = filterOpeningOver notNewline := rfl

theorem projectionParts_eq : projectionParts = projectionOver notNewline atEnd := rfl

section

variable {accepts accepts' : Char → Bool}

theorem filterOpeningOver_alike (h : ∀ x, x ≠ '\n' → accepts x = accepts' x) :
    AlikeOnLine (filterOpeningOver accepts) (filterOpeningOver accepts') := by
  have hstep := alikeOnLine_seq (alikeOnLine_refl (notBefore filterEnd)) (alikeOnLine_one h)
  exact alikeOnLine_sequence (.cons (alikeOnLine_refl _) (.cons (alikeOnLine_refl _)
    (.cons (alikeOnLine_refl _) (.cons (alikeOnLine_few hstep) (.cons (alikeOnLine_refl _) .nil)))))

theorem projectionOver_alike {stop stop' : Pattern} (h : ∀ x, x ≠ '\n' → accepts x = accepts' x)
    (hstop : AlikeOnLine stop stop') :
    List.Forall₂ AlikeOnLine (projectionOver accepts stop) (projectionOver accepts' stop') := by
  have hend := alikeOnLine_alt (alikeOnLine_refl (wholeWord "FROM")) hstop
  exact .cons (alikeOnLine_refl _) (.cons (alikeOnLine_few (alikeOnLine_one h)) (.cons hend .nil))

end

/-- The patterns that know line breaks range over the whole text. A stretch of a line reaches every
place that is still to come, and the line ends only where the text does. Filters and projections
are found as if any character could stand in them, and no selection is without its projection. -/
structure IsSearchedWhole (text : List Char) : Prop where
  stretches : ∀ c ∈ (Cursor.ofText text).positions, ends (few (one notNewline)) c = c.positions
  lineEnds : ∀ c ∈ (Cursor.ofText text).positions, ends atLineEnd c = ends atEnd c
  filters : find? [filterOpening, filterFunction, columnArgument] (.ofText text) =
    find? [filterOpeningOver fun _ => true, filterFunction, columnArgument] (.ofText text)
  projections : findAll projectionParts text = findAll (projectionOver (fun _ => true) atEnd) text
  projectionsByLine : findAll (projectionOver notNewline atLineEnd) text =
    findAll projectionParts text
  selections : ∀ c ∈ (Cursor.ofText text).positions,
    ends (wholeWord "SELECT") c ≠ [] → cuts projectionParts c ≠ none

/-- Where a selection begins, its projection may stop at the end of the text, if nowhere else. -/
theorem cuts_projectionParts {c : Cursor} (hc : c.OnLastLine)
    (hselect : ends (wholeWord "SELECT") c ≠ []) : cuts projectionParts c ≠ none := by
  obtain ⟨d, hd⟩ := List.exists_mem_of_ne_nil _ hselect
  obtain ⟨t, ht⟩ := spans_of_mem_ends hd
  have hlast : d.Spans d.rest ⟨d.rest.getLast?.or d.last, []⟩ := ⟨by simp, rfl⟩
  have hreached : ⟨d.rest.getLast?.or d.last, []⟩ ∈ ends (few (one notNewline)) d := by
    rw [ends_few_notNewline (hc.after ht), Cursor.mem_positions]
    exact ⟨d.rest, hlast⟩
  have hstop : ⟨d.rest.getLast?.or d.last, []⟩ ∈
      ends (alt (wholeWord "FROM") atEnd) ⟨d.rest.getLast?.or d.last, []⟩ :=
    List.mem_append_right _ (List.mem_singleton.mpr rfl)
  exact cuts_cons_ne_none hd (cuts_cons_ne_none hreached (cuts_cons_ne_none hstop (by simp [cuts])))

theorem isSearchedWhole_of_one_line (h : '\n' ∉ text) : IsSearchedWhole text := by
  have hline : (Cursor.ofText text).OnLastLine := h
  have hplace : ∀ c ∈ (Cursor.ofText text).positions, c.OnLastLine := by
    intro c hc
    obtain ⟨t, ht⟩ := Cursor.mem_positions.mp hc
    exact hline.after ht
  have hany : ∀ x, x ≠ '\n' → notNewline x = true := fun x hx => by simpa [notNewline] using hx
  constructor
  case stretches => exact fun c hc => ends_few_notNewline (hplace c hc)
  case lineEnds => exact fun c hc => alikeOnLine_atLineEnd (hplace c hc)
  case filters =>
    have hopening := filterOpeningOver_alike hany
    rw [filterOpening_eq]
    exact find?_of_alike (.cons hopening (.cons (alikeOnLine_refl _)
      (.cons (alikeOnLine_refl _) .nil))) hline
  case projections =>
    rw [projectionParts_eq]
    exact findAll_of_alike (projectionOver_alike hany (alikeOnLine_refl _)) h
  case projectionsByLine =>
    rw [projectionParts_eq]
    exact findAll_of_alike (projectionOver_alike (fun _ _ => rfl) alikeOnLine_atLineEnd) h
  case selections => exact fun c hc => cuts_projectionParts (hplace c hc)

/-- A normal form is no longer than its query, begins and ends with no blank, and has no other
blanks than single spaces. It is one line, which the patterns search as a whole. -/
theorem normal_form_is_one_line (query : String) :
    (normalize query).length ≤ query.length ∧
      IsTrimmed (normalize query).toList ∧
      SinglySpaced (normalize query).toList ∧
      '\n' ∉ (normalize query).toList ∧
      IsSearchedWhole (normalize query).toList := by
  have hspaced : SinglySpaced (normalizeText query.toList) := singlySpaced_normalizeText _
  have hline := hspaced.newline_not_mem
  have hlength : (normalize query).length ≤ query.length := by
    rw [← String.length_toList, ← String.length_toList, normalize, String.toList_ofList]
    exact length_normalizeText_le _
  refine ⟨hlength, ?_⟩
  rw [normalize, String.toList_ofList]
  exact ⟨isTrimmed_trim _, hspaced, hline, isSearchedWhole_of_one_line hline⟩

example : normalizeText "\u00a0SELECT /* a\n\nb */\u2028\tId -- key\r\nFROM\u3000\x1fT\n".toList =
    "SELECT Id FROM T".toList := by
  decide +kernel

end QueryTuning.Query
