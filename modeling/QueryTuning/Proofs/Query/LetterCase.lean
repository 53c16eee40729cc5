import Mathlib.Data.List.Forall2
import QueryTuning.Proofs.Pattern.Case
import QueryTuning.Proofs.Query.Issues

/-!
# Letter case in a query

No pattern of the rules tells the cases of a letter of ASCII apart. So each rule finds in a
text in lower case the issue that it finds in the text itself, at the same place, and two
queries of ASCII that differ in case only have the same issues.
-/

set_option autoImplicit false

namespace QueryTuning.Query

open Pattern Text

@[simp]
theorem caseBlind_isDecimal : CaseBlind isDecimal := by decide

@[simp]
theorem caseBlind_isWord : CaseBlind isWord := fun x _ => isWord_any_case x

@[simp]
theorem caseBlind_isLetterOrUnderscore : CaseBlind isLetterOrUnderscore := by decide

@[simp]
theorem caseBlind_not_isParenthesis : CaseBlind fun c => !isParenthesis c := by decide

@[simp]
theorem caseBlind_not_quote : CaseBlind (· != '\'') := by decide

@[simp]
theorem caseBlind_notNewline : CaseBlind notNewline := by decide

theorem ignoresCase_conversionTo {types : Pattern} (h : IgnoresCase types) :
    IgnoresCase (conversionTo types) := by
  simp [conversionTo, typeArguments, h]

theorem ignoresCase_mixedComparison : IgnoresCase mixedComparison := by
  have hstring : IgnoresCase (conversionTo stringType) :=
    ignoresCase_conversionTo (by simp [stringType])
  have hnumeric : IgnoresCase (conversionTo numericType) :=
    ignoresCase_conversionTo (by simp [numericType])
  have hbefore : CaseBlind fun c => isWord c || c == '@' || c == '.' := by decide
  simp [mixedComparison, compared, comparison, stringExpression, numericExpression,
    stringLiteral, numericLiteral, hstring, hnumeric, hbefore]

theorem ignoresCase_filterParts :
    ∀ p ∈ [filterOpening, filterFunction, columnArgument], IgnoresCase p := by
  simp [filterOpening, filterEnd, filterFunction, columnArgument]

theorem ignoresCase_commaJoin : IgnoresCase commaJoin := by
  have hbracket : CaseBlind (· != ']') := by decide
  have hfirst : CaseBlind fun c => isLetterOrUnderscore c || c == '#' || c == '@' := by decide
  have hlater : CaseBlind fun c => isWord c || c == '$' || c == '#' := by decide
  simp [commaJoin, tableReference, qualifiedName, namePart, bracketedName, plainName, tableAlias,
    tableHint, hbracket, hfirst, hlater]

theorem ignoresCase_projectionParts : ∀ p ∈ projectionParts, IgnoresCase p := by
  simp [projectionParts, wholeWord]

theorem ignoresCase_qualifiedCall : IgnoresCase qualifiedCall := by
  have hbefore : CaseBlind fun c => isWord c || c == ']' || c == '.' := by decide
  have hfirst : CaseBlind isAsciiLetterOrUnderscore := by decide
  simp [qualifiedCall, calledName, hbefore, hfirst]

variable {text : List Char}

theorem isAscii_replaceAll {p : Pattern} {replacement : List Char}
    (hreplacement : ∀ x ∈ replacement, IsAscii x) (htext : ∀ x ∈ text, IsAscii x) :
    ∀ x ∈ replaceAll p replacement text, IsAscii x := fun x hx =>
  (mem_replaceFrom hx).elim (htext x) (hreplacement x)

theorem isAscii_withoutLines (htext : ∀ x ∈ text, IsAscii x) :
    ∀ x ∈ replaceAll lineComment [] text, IsAscii x :=
  isAscii_replaceAll (by simp) htext

theorem isAscii_withoutComments (htext : ∀ x ∈ text, IsAscii x) :
    ∀ x ∈ withoutComments text, IsAscii x :=
  isAscii_replaceAll (by simp) (isAscii_withoutLines htext)

theorem isAscii_normalizeText (htext : ∀ x ∈ text, IsAscii x) :
    ∀ x ∈ normalizeText text, IsAscii x :=
  isAscii_of_infix (trim_isInfix _)
    (isAscii_replaceAll (by decide) (isAscii_withoutComments htext))

theorem withoutComments_folded (htext : ∀ x ∈ text, IsAscii x) :
    withoutComments (text.map folded) = (withoutComments text).map folded := by
  have hany : CaseBlind fun _ => true := fun _ _ => rfl
  rw [withoutComments, withoutComments, replaceAll_folded (by simp [lineComment]) rfl htext,
    replaceAll_folded (by simp [blockComment, hany]) rfl (isAscii_withoutLines htext)]

theorem normalizeText_folded (htext : ∀ x ∈ text, IsAscii x) :
    normalizeText (text.map folded) = (normalizeText text).map folded := by
  rw [normalizeText, normalizeText, withoutComments_folded htext, collapseBlanks, collapseBlanks,
    replaceAll_folded ignoresCase_blanks1 rfl (isAscii_withoutComments htext), trim_folded]

theorem balancedLength?_folded (depth : Int) (text : List Char) :
    balancedLength? depth (text.map folded) = balancedLength? depth text := by
  induction text generalizing depth with
  | nil => rfl
  | cons c cs ih =>
    have hopen : folded c = '(' ↔ c = '(' := folded_eq_mark (c := '(') (by decide)
    have hclose : folded c = ')' ↔ c = ')' := folded_eq_mark (c := ')') (by decide)
    simp only [List.map_cons, balancedLength?, hopen, hclose, ih]

theorem callExtent_folded (text : List Char) :
    callExtent (text.map folded) = (callExtent text).map folded := by
  rw [callExtent, callExtent, balancedLength?_folded]
  cases balancedLength? 0 text with
  | none => exact trim_folded text
  | some n => exact List.map_take.symm

def foldedIssue (issue : Issue) : Issue :=
  { issue with fragment := String.ofList (issue.fragment.toList.map folded) }

def FoldsCase (rule : Rule) : Prop :=
  ∀ text : List Char, (∀ x ∈ text, IsAscii x) →
    rule (text.map folded) = (rule text).map foldedIssue

theorem foldsCase_reportFirst {p : Pattern} (hp : IgnoresCase p) (kind : IssueKind)
    (severity : Severity) (description : String) :
    FoldsCase (reportFirst p kind severity description) := by
  intro text htext
  rw [reportFirst, reportFirst, Cursor.ofText_folded,
    find?_folded (by simpa using hp) (Cursor.inAscii_ofText htext), Option.map_map, Option.map_map]
  refine Option.map_congr fun hit _ => ?_
  simp [foldedIssue, Hit.text_folded]

theorem foldsCase_filterFunctionRule : FoldsCase filterFunctionRule := by
  intro text htext
  rw [filterFunctionRule, filterFunctionRule, Cursor.ofText_folded,
    find?_folded ignoresCase_filterParts (Cursor.inAscii_ofText htext), Option.map_map,
    Option.map_map]
  refine Option.map_congr fun hit hfind => ?_
  have hname := isAscii_of_infix ((foundFrom_of_find? hfind).part_isInfix 1) htext
  have hupper : upper ((hit.part 1).map folded) = upper (hit.part 1) := by
    apply upper_of_folded _ hname
    · rw [List.map_map]
      exact List.map_congr_left fun x hx => folded_folded (hname x hx)
    · intro x hx
      obtain ⟨y, hy, rfl⟩ := List.mem_map.mp hx
      exact isAscii_folded (hname y hy)
  have hrest : (hit.folded.partStart 1).rest = (hit.partStart 1).rest.map folded := by
    rw [Hit.partStart_folded]
    rfl
  simp [foldedIssue, Hit.part_folded, hupper, hrest, callExtent_folded]

theorem foldsCase_nonSargableRule : FoldsCase nonSargableRule := by
  have hwildcard : FoldsCase leadingWildcardRule :=
    foldsCase_reportFirst (by simp [leadingWildcard]) _ _ _
  intro text htext
  rw [nonSargableRule, nonSargableRule, foldsCase_filterFunctionRule text htext,
    hwildcard text htext]
  cases filterFunctionRule text <;> rfl

theorem foldsCase_cartesianProductRule : FoldsCase cartesianProductRule := by
  intro text htext
  have hjoins : findAll [commaJoin] (text.map folded) =
      (findAll [commaJoin] text).map Hit.folded :=
    findAll_folded (by simpa using ignoresCase_commaJoin) htext
  have hunjoined : ∀ hit ∈ findAll [commaJoin] text,
      (!explicitJoin.matchesAt hit.folded.stop) = !explicitJoin.matchesAt hit.stop := by
    intro hit hhit
    have hfound := foundFrom_of_mem_hits hhit
    obtain ⟨t, ht⟩ := hfound.reached
    have hstop := (Cursor.inAscii_ofText htext).after (ht.append hfound.spans)
    rw [Hit.stop_folded, matchesAt_folded (by simp [explicitJoin]) hstop]
  have hfirst : ((findAll [commaJoin] text).map Hit.folded).find?
      (fun hit => !explicitJoin.matchesAt hit.stop) =
        ((findAll [commaJoin] text).find? fun hit => !explicitJoin.matchesAt hit.stop).map
          Hit.folded :=
    find?_map_of_agree hunjoined
  rw [cartesianProductRule, cartesianProductRule, hjoins, hfirst, Option.map_map, Option.map_map]
  refine Option.map_congr fun hit _ => ?_
  simp [foldedIssue, Hit.text_folded]

theorem foldsCase_scalarFunctionRule : FoldsCase scalarFunctionRule := by
  intro text htext
  have hcalls : ∀ selection ∈ findAll projectionParts text,
      find? [qualifiedCall] (Cursor.ofText (selection.folded.part 1)) =
        (find? [qualifiedCall] (Cursor.ofText (selection.part 1))).map Hit.folded := by
    intro selection hselection
    have hpart := isAscii_of_infix ((foundFrom_of_mem_hits hselection).part_isInfix 1) htext
    rw [Hit.part_folded, Cursor.ofText_folded]
    exact find?_folded (by simpa using ignoresCase_qualifiedCall) (Cursor.inAscii_ofText hpart)
  have hfirst : ((findAll projectionParts text).map Hit.folded).findSome?
      (fun selection => find? [qualifiedCall] (Cursor.ofText (selection.part 1))) =
        ((findAll projectionParts text).findSome? fun selection =>
          find? [qualifiedCall] (Cursor.ofText (selection.part 1))).map Hit.folded :=
    findSome?_map_of_agree hcalls
  rw [scalarFunctionRule, scalarFunctionRule, findAll_folded ignoresCase_projectionParts htext,
    hfirst, Option.map_map, Option.map_map]
  refine Option.map_congr fun hit _ => ?_
  have hrest : hit.folded.start.rest = hit.start.rest.map folded := rfl
  simp [foldedIssue, hrest, callExtent_folded, trim_folded]

theorem issuesIn_folded (htext : ∀ x ∈ text, IsAscii x) :
    issuesIn (text.map folded) = (issuesIn text).map foldedIssue := by
  have hrules : ∀ rule ∈ rules, FoldsCase rule := by
    simp only [rules, List.forall_mem_cons, List.not_mem_nil, false_imp_iff, implies_true,
      and_true]
    exact ⟨foldsCase_reportFirst (by simp [selectStar]) _ _ _,
      foldsCase_reportFirst (by simp [noLockHint]) _ _ _,
      foldsCase_reportFirst ignoresCase_mixedComparison _ _ _, foldsCase_nonSargableRule,
      foldsCase_reportFirst (by simp [selectDistinct]) _ _ _, foldsCase_cartesianProductRule,
      foldsCase_scalarFunctionRule⟩
  rw [issuesIn, issuesIn, List.map_filterMap]
  exact List.filterMap_congr fun rule hrule => hrules rule hrule text htext

def SameButCase (s t : List Char) : Prop := s.map Char.toLower = t.map Char.toLower

structure Alike (issue other : Issue) : Prop where
  kind : issue.kind = other.kind
  severity : issue.severity = other.severity
  description : issue.description = other.description
  fragment : SameButCase issue.fragment.toList other.fragment.toList

theorem map_folded_ascii (htext : ∀ x ∈ text, IsAscii x) :
    text.map folded = text.map Char.toLower :=
  List.map_congr_left fun x hx => by rw [folded, if_pos (htext x hx)]

theorem isAscii_fragment {issue : Issue} (htext : ∀ x ∈ text, IsAscii x)
    (hissue : issue ∈ issuesIn (normalizeText text)) :
    ∀ x ∈ issue.fragment.toList, IsAscii x :=
  isAscii_of_infix (isStretch_of_mem_issuesIn (isTrimmed_trim _).last hissue).within
    (isAscii_normalizeText htext)

theorem alike_of_foldedIssue {issue other : Issue} (h : foldedIssue issue = foldedIssue other)
    (hissue : ∀ x ∈ issue.fragment.toList, IsAscii x)
    (hother : ∀ x ∈ other.fragment.toList, IsAscii x) : Alike issue other := by
  simp only [foldedIssue, Issue.mk.injEq, String.ofList_inj] at h
  obtain ⟨hkind, hdescription, hfragment, hseverity⟩ := h
  rw [map_folded_ascii hissue, map_folded_ascii hother] at hfragment
  exact ⟨hkind, hseverity, hdescription, hfragment⟩

theorem isBlankText_folded (text : List Char) : isBlankText (text.map folded) = isBlankText text := by
  have hblank : isBlank ∘ folded = isBlank := funext isBlank_any_case
  rw [isBlankText, List.all_map, hblank, isBlankText]

/-- Two queries of ASCII that differ in the case of letters only are both blank, or have issues
that agree one by one but for the case of letters in the fragments. -/
theorem detection_ignores_case {query other : String} (hquery : ∀ c ∈ query.toList, IsAscii c)
    (hother : ∀ c ∈ other.toList, IsAscii c) (hsame : SameButCase query.toList other.toList) :
    (isBlankString query = true ∧ isBlankString other = true) ∨
      ∃ issues others, detect query = .ok issues ∧ detect other = .ok others ∧
        List.Forall₂ Alike issues others := by
  have hfolded : query.toList.map folded = other.toList.map folded := by
    rw [map_folded_ascii hquery, map_folded_ascii hother]
    exact hsame
  have hblanks : isBlankString other = isBlankString query := by
    rw [isBlankString, ← isBlankText_folded, ← hfolded, isBlankText_folded, isBlankString]
  have hissues : (issuesIn (normalizeText query.toList)).map foldedIssue =
      (issuesIn (normalizeText other.toList)).map foldedIssue := by
    rw [← issuesIn_folded (isAscii_normalizeText hquery), ← normalizeText_folded hquery, hfolded,
      normalizeText_folded hother, issuesIn_folded (isAscii_normalizeText hother)]
  cases hblank : isBlankString query with
  | true => exact .inl ⟨rfl, hblanks.trans hblank⟩
  | false =>
    refine .inr ⟨issuesIn (normalizeText query.toList), issuesIn (normalizeText other.toList),
      by simp [detect, hblank], by simp [detect, hblanks, hblank], ?_⟩
    have hpairs : List.Forall₂ (fun issue other => foldedIssue issue = foldedIssue other)
        (issuesIn (normalizeText query.toList)) (issuesIn (normalizeText other.toList)) := by
      rwa [← List.forall₂_eq_eq_eq, List.forall₂_map_left_iff, List.forall₂_map_right_iff] at hissues
    refine List.forall₂_iff_get.mpr ⟨hpairs.length_eq, fun k hk hk' => ?_⟩
    exact alike_of_foldedIssue (hpairs.get hk hk')
      (isAscii_fragment hquery (List.get_mem _ _)) (isAscii_fragment hother (List.get_mem _ _))

theorem select_star_in_either_case :
    (∀ c ∈ "SELECT DISTINCT * FROM Orders".toList, IsAscii c) ∧
      (∀ c ∈ "select Distinct * from ORDERS".toList, IsAscii c) ∧
      SameButCase "SELECT DISTINCT * FROM Orders".toList "select Distinct * from ORDERS".toList ∧
      ∃ issues others, detect "SELECT DISTINCT * FROM Orders" = .ok issues ∧
        detect "select Distinct * from ORDERS" = .ok others ∧ List.Forall₂ Alike issues others := by
  have hquery : ∀ c ∈ "SELECT DISTINCT * FROM Orders".toList, IsAscii c := by decide +kernel
  have hother : ∀ c ∈ "select Distinct * from ORDERS".toList, IsAscii c := by decide +kernel
  have hsame : SameButCase "SELECT DISTINCT * FROM Orders".toList
      "select Distinct * from ORDERS".toList := by
    unfold SameButCase
    decide +kernel
  have hinked : isBlankString "SELECT DISTINCT * FROM Orders" = false := by decide +kernel
  refine ⟨hquery, hother, hsame, ?_⟩
  exact (detection_ignores_case hquery hother hsame).resolve_left fun hblank => by
    simp [hinked] at hblank

end QueryTuning.Query
