import QueryTuning.Proofs.Pattern.Edges
import QueryTuning.Proofs.Pattern.Scan
import QueryTuning.Proofs.Text.Margins
import QueryTuning.Query.Detection

/-!
# The issues of a query

Each rule reports at most one issue, of its own kind, and every issue shows a stretch of the
normal form with no blank at either end. Most patterns begin and end with characters that
are no blanks. A leading wildcard may run to the end of the text, which is trimmed, and a
call is cut at its parenthesis or trimmed.
-/

set_option autoImplicit false

namespace QueryTuning.Query

open Pattern Text
open scoped List

structure IsStretch (text fragment : List Char) : Prop where
  within : fragment <:+: text
  ne_nil : fragment ≠ []
  trimmed : IsTrimmed fragment

variable {p : Pattern} {parts : List Pattern} {text t u : List Char} {c d : Cursor} {h : Hit}
  {issue : Issue}

theorem spans_within (hu : (Cursor.ofText text).Spans u c) (ht : c.Spans t d) : t <:+: text := by
  have hrest := (hu.append ht).rest
  exact ⟨u, d.rest, hrest.symm⟩

theorem isStretch_of_found (hp : BeginsInk p) (hfound : FoundFrom [p] (.ofText text) h)
    (hlast : EndsOutside isBlank h.text) : IsStretch text h.text := by
  obtain ⟨u, hu⟩ := hfound.reached
  obtain ⟨x, xs, -, hx, t, ht⟩ := hp.exists_cons (List.mem_of_head? hfound.head?_ends)
  have htext : h.text = x :: t := ht.upTo
  exact ⟨spans_within hu hfound.spans, by simp [htext],
    by rw [htext]; exact startsOutside_cons.mpr hx, hlast⟩

theorem endsOutside_of_found (hp : closesOutside blanks p = true)
    (hfound : FoundFrom [p] (.ofText text) h) : EndsOutside isBlank h.text := fun _ hx =>
  isBlank_of_not_mem (not_mem_of_closes hp
    ⟨h.start, h.stop, List.mem_of_head? hfound.head?_ends, hfound.spans⟩ hx)

theorem reportFirst_isStretch {kind : IssueKind} {severity : Severity} {description : String}
    (hp : BeginsInk p) (hlast : ∀ h, FoundFrom [p] (.ofText text) h → EndsOutside isBlank h.text)
    (hissue : reportFirst p kind severity description text = some issue) :
    IsStretch text issue.fragment.toList := by
  obtain ⟨hit, hfind, rfl⟩ := Option.map_eq_some_iff.mp hissue
  have hfound := foundFrom_of_find? hfind
  simpa using isStretch_of_found hp hfound (hlast hit hfound)

theorem cartesianProduct_isStretch (hissue : cartesianProductRule text = some issue) :
    IsStretch text issue.fragment.toList := by
  obtain ⟨hit, hfind, rfl⟩ := Option.map_eq_some_iff.mp hissue
  have hfound := foundFrom_of_mem_hits (List.mem_of_find?_eq_some hfind)
  have hclosed : closesOutside blanks commaJoin = true := by decide +kernel
  simpa using isStretch_of_found ⟨rfl, by decide +kernel⟩ hfound
    (endsOutside_of_found hclosed hfound)

theorem exists_mid_of_head? {q : Pattern} (hd : (ends (seq p q) c).head? = some d) :
    ∃ m ∈ ends p c, (ends q m).head? = some d := by
  rw [ends, List.head?_flatMap] at hd
  exact List.exists_of_findSome?_eq_some hd

/-- A wildcard pattern is taken up to its closing quote, or to the end of the text. -/
theorem stop_of_leadingWildcard (hd : (ends leadingWildcard c).head? = some d) :
    d.rest = [] ∨ d.last = some '\'' := by
  simp only [leadingWildcard, sequence_cons, sequence_nil] at hd
  obtain ⟨_, -, hd⟩ := exists_mid_of_head? hd
  obtain ⟨_, -, hd⟩ := exists_mid_of_head? hd
  obtain ⟨_, -, hd⟩ := exists_mid_of_head? hd
  obtain ⟨_, -, hd⟩ := exists_mid_of_head? hd
  obtain ⟨m, -, hd⟩ := exists_mid_of_head? hd
  have hlast : (ends (run0 (· != '\'')) m).head? = some (after (· != '\'') m) := head?_ends_run0
  obtain ⟨ds, hrun⟩ := List.head?_eq_some_iff.mp hlast
  rw [ends, hrun, List.flatMap_cons, List.head?_append] at hd
  have hquote : ∀ y ys, (after (· != '\'') m).rest = y :: ys → y = '\'' := by
    intro y ys hrest
    have hhead := startsOutside_dropWhile (· != '\'') m.rest
    simp only [after] at hrest
    simpa [hrest, startsOutside_cons] using hhead
  cases hrest : (after (· != '\'') m).rest with
  | nil =>
    have hstop : after (· != '\'') m = d := by
      simpa [ends, Pattern.optional, letter, hrest] using hd
    exact .inl (hstop ▸ hrest)
  | cons y ys =>
    obtain rfl := hquote y ys hrest
    have hstop : ⟨some '\'', ys⟩ = d := by
      simpa [ends, Pattern.optional, letter, hrest] using hd
    exact .inr (by rw [← hstop])

theorem endsOutside_of_leadingWildcard (htext : EndsOutside isBlank text)
    (hfound : FoundFrom [leadingWildcard] (.ofText text) h) : EndsOutside isBlank h.text := by
  obtain ⟨u, hu⟩ := hfound.reached
  intro x hx
  rcases stop_of_leadingWildcard hfound.head?_ends with hend | hquote
  · have hrest := (hu.append hfound.spans).rest
    rw [hend, List.append_nil] at hrest
    exact endsOutside_of_isSuffix ⟨u, hrest.symm⟩ htext x hx
  · have hlast := hfound.spans.last
    rw [hquote, hx] at hlast
    obtain rfl : '\'' = x := by simpa using hlast
    decide

theorem balancedLength?_take {depth : Int} {n : Nat} (hn : balancedLength? depth text = some n) :
    ∃ s, text.take n = s ++ [')'] := by
  induction text generalizing depth n with
  | nil => cases hn
  | cons c cs ih =>
    have hlater : ∀ {depth : Int}, (balancedLength? depth cs).map (· + 1) = some n →
        ∃ s, (c :: cs).take n = s ++ [')'] := by
      intro depth hmap
      obtain ⟨m, hm, rfl⟩ := Option.map_eq_some_iff.mp hmap
      obtain ⟨s, hs⟩ := ih hm
      exact ⟨c :: s, by simp [hs]⟩
    rw [balancedLength?] at hn
    split at hn
    · exact hlater hn
    · split at hn
      next hclose =>
        split at hn
        · obtain rfl : 1 = n := by simpa using hn
          exact ⟨[], by simp [hclose]⟩
        · exact hlater hn
      · exact hlater hn

/-- The extent of a call that begins within a text, with no blank. -/
theorem callExtent_isStretch {x : Char} {xs : List Char} (hx : isBlank x = false)
    (hwithin : x :: xs <:+: text) : IsStretch text (callExtent (x :: xs)) := by
  unfold callExtent
  split
  next n hn =>
    obtain ⟨s, hs⟩ := balancedLength?_take hn
    have hfront : (x :: xs).take n <+: x :: xs := List.take_prefix n (x :: xs)
    refine ⟨hfront.isInfix.trans hwithin, by simp [hs], ?_, ?_⟩
    · exact startsOutside_of_isPrefix hfront (startsOutside_cons.mpr hx)
    · rw [hs, endsOutside_append_singleton]
      decide
  next =>
    rw [trim_cons hx]
    exact ⟨(isPrefix_trimEnd _).isInfix.trans hwithin, trimEnd_cons_ne_nil hx xs,
      trim_cons hx xs ▸ isTrimmed_trim _⟩

/-- Where a reported function in a filter stands. -/
theorem exists_filterFunction (hissue : filterFunctionRule text = some issue) :
    ∃ c d e, c.rest <:+ text ∧ d ∈ ends filterFunction c ∧ e ∈ ends columnArgument d ∧
      issue.fragment.toList = callExtent c.rest := by
  obtain ⟨hit, hfind, rfl⟩ := Option.map_eq_some_iff.mp hissue
  have hfound := foundFrom_of_find? hfind
  obtain ⟨u, hu⟩ := hfound.reached_part 1
  obtain ⟨c, rest, hcs, -, hlater⟩ := cuts_cons hfound.cuts
  obtain ⟨d, _, -, hfunction, hlast⟩ := cuts_cons hlater
  obtain ⟨e, _, -, hargument, -⟩ := cuts_cons hlast
  have hpart : hit.partStart 1 = c := by simp [Hit.partStart, hcs]
  have hsuffix : c.rest <:+ text := ⟨u, by rw [← hpart]; exact hu.rest.symm⟩
  exact ⟨c, d, e, hsuffix, hfunction, hargument, by simp [hpart]⟩

theorem filterFunction_isStretch (hissue : filterFunctionRule text = some issue) :
    IsStretch text issue.fragment.toList := by
  obtain ⟨c, d, e, hsuffix, hfunction, -, hfragment⟩ := exists_filterFunction hissue
  have hbegins : BeginsInk filterFunction := ⟨by decide +kernel, by decide +kernel⟩
  obtain ⟨x, xs, hrest, hx, -⟩ := hbegins.exists_cons hfunction
  rw [hfragment, hrest]
  exact callExtent_isStretch hx (hrest ▸ hsuffix).isInfix

theorem nonSargable_isStretch (htext : EndsOutside isBlank text)
    (hissue : nonSargableRule text = some issue) : IsStretch text issue.fragment.toList := by
  rcases Option.or_eq_some_iff.mp hissue with hissue | ⟨-, hissue⟩
  · exact filterFunction_isStretch hissue
  · exact reportFirst_isStretch ⟨rfl, by decide +kernel⟩
      (fun _ => endsOutside_of_leadingWildcard htext) hissue

/-- Where a reported function in a projection stands. Its name comes first, so its call has
nothing to trim. -/
theorem exists_scalarFunction (hissue : scalarFunctionRule text = some issue) :
    ∃ selection ∈ findAll projectionParts text, ∃ c d, c.rest <:+ selection.part 1 ∧
      d ∈ ends qualifiedCall c ∧ issue.fragment.toList = callExtent c.rest ∧
      IsStretch (selection.part 1) issue.fragment.toList := by
  obtain ⟨hit, hfind, rfl⟩ := Option.map_eq_some_iff.mp hissue
  obtain ⟨selection, hselection, hcall⟩ := List.exists_of_findSome?_eq_some hfind
  have hfound := foundFrom_of_find? hcall
  obtain ⟨u, hu⟩ := hfound.reached
  have hends := List.mem_of_head? hfound.head?_ends
  have hsuffix : hit.start.rest <:+ selection.part 1 := ⟨u, hu.rest.symm⟩
  have hbegins : BeginsInk qualifiedCall := ⟨by decide +kernel, by decide +kernel⟩
  obtain ⟨x, xs, hrest, hx, -⟩ := hbegins.exists_cons hends
  have hstretch : IsStretch (selection.part 1) (callExtent hit.start.rest) := by
    rw [hrest] at hsuffix ⊢
    exact callExtent_isStretch hx hsuffix.isInfix
  have hfragment : (String.ofList (trim (callExtent hit.start.rest))).toList =
      callExtent hit.start.rest := by
    rw [String.toList_ofList, hstretch.trimmed.trim_eq]
  refine ⟨selection, hselection, hit.start, hit.stop, hsuffix, hends, hfragment, ?_⟩
  dsimp only
  rw [hfragment]
  exact hstretch

theorem scalarFunction_isStretch (hissue : scalarFunctionRule text = some issue) :
    IsStretch text issue.fragment.toList := by
  obtain ⟨selection, hselection, -, -, -, -, -, hstretch⟩ := exists_scalarFunction hissue
  have hwithin : selection.part 1 <:+: text := (foundFrom_of_mem_hits hselection).part_isInfix 1
  exact ⟨hstretch.within.trans hwithin, hstretch.ne_nil, hstretch.trimmed⟩

def detectedKinds : List IssueKind :=
  [.columnWildcard, .dirtyRead, .implicitConversion, .nonSargableCondition,
    .unnecessaryDistinct, .cartesianProduct, .scalarFunction]

def ReportsOnly (rule : Rule) (kind : IssueKind) : Prop :=
  ∀ text, ∀ issue ∈ rule text, issue.kind = kind

theorem reportsOnly_reportFirst (p : Pattern) (kind : IssueKind) (severity : Severity)
    (description : String) : ReportsOnly (reportFirst p kind severity description) kind := by
  intro text issue hissue
  obtain ⟨hit, -, rfl⟩ := Option.map_eq_some_iff.mp hissue
  rfl

theorem reportsOnly_nonSargable : ReportsOnly nonSargableRule .nonSargableCondition := by
  intro text issue hissue
  rcases Option.or_eq_some_iff.mp hissue with hissue | ⟨-, hissue⟩
  · obtain ⟨hit, -, rfl⟩ := Option.map_eq_some_iff.mp hissue
    rfl
  · exact reportsOnly_reportFirst _ _ _ _ text issue hissue

theorem reportsOnly_cartesianProduct : ReportsOnly cartesianProductRule .cartesianProduct := by
  intro text issue hissue
  obtain ⟨hit, -, rfl⟩ := Option.map_eq_some_iff.mp hissue
  rfl

theorem reportsOnly_scalarFunction : ReportsOnly scalarFunctionRule .scalarFunction := by
  intro text issue hissue
  obtain ⟨hit, -, rfl⟩ := Option.map_eq_some_iff.mp hissue
  rfl

theorem rules_report_detectedKinds : List.Forall₂ ReportsOnly rules detectedKinds :=
  .cons (reportsOnly_reportFirst _ _ _ _) (.cons (reportsOnly_reportFirst _ _ _ _)
    (.cons (reportsOnly_reportFirst _ _ _ _) (.cons reportsOnly_nonSargable
      (.cons (reportsOnly_reportFirst _ _ _ _) (.cons reportsOnly_cartesianProduct
        (.cons reportsOnly_scalarFunction .nil))))))

theorem kinds_filterMap_sublist {rules : List Rule} {kinds : List IssueKind}
    (h : List.Forall₂ ReportsOnly rules kinds) (normalForm : List Char) :
    (rules.filterMap fun rule => rule normalForm).map Issue.kind <+ kinds := by
  induction h with
  | nil => exact List.nil_sublist _
  | @cons rule kind rules kinds hrule _ ih =>
    rw [List.filterMap_cons]
    cases hissue : rule normalForm with
    | none => exact ih.cons kind
    | some issue =>
      rw [List.map_cons, hrule normalForm issue hissue]
      exact ih.cons_cons kind

/-- Each rule reports issues of its own kind, in the order of the rules. -/
theorem kinds_issuesIn_sublist (normalForm : List Char) :
    (issuesIn normalForm).map Issue.kind <+ detectedKinds :=
  kinds_filterMap_sublist rules_report_detectedKinds normalForm

theorem isStretch_of_mem_issuesIn (htext : EndsOutside isBlank text)
    (hissue : issue ∈ issuesIn text) : IsStretch text issue.fragment.toList := by
  have hfirst : ∀ {p : Pattern} {kind : IssueKind} {severity : Severity} {description : String},
      BeginsInk p → closesOutside blanks p = true →
        reportFirst p kind severity description text = some issue →
          IsStretch text issue.fragment.toList := fun hp hclosed =>
    reportFirst_isStretch hp fun _ => endsOutside_of_found hclosed
  obtain ⟨rule, hrule, hreport⟩ := List.mem_filterMap.mp hissue
  simp only [rules, List.mem_cons, List.not_mem_nil, or_false] at hrule
  rcases hrule with rfl | rfl | rfl | rfl | rfl | rfl | rfl
  · exact hfirst ⟨rfl, by decide +kernel⟩ (by decide +kernel) hreport
  · exact hfirst ⟨rfl, by decide +kernel⟩ (by decide +kernel) hreport
  · exact hfirst ⟨by decide +kernel, by decide +kernel⟩ (by decide +kernel) hreport
  · exact nonSargable_isStretch htext hreport
  · exact hfirst ⟨rfl, by decide +kernel⟩ (by decide +kernel) hreport
  · exact cartesianProduct_isStretch hreport
  · exact scalarFunction_isStretch hreport

/-- A query that is not blank has issues of different kinds, in the order of the rules, and each
shows a stretch of the normal form that is not empty and has no blank at either end. -/
theorem issues_are_located (query : String) :
    (isBlankString query = true ∧ detect query = .error .blankQueryText) ∨
      ∃ issues, detect query = .ok issues ∧
        (issues.map Issue.kind).Nodup ∧ issues.map Issue.kind <+ detectedKinds ∧
        ∀ issue ∈ issues, IsStretch (normalize query).toList issue.fragment.toList := by
  cases hblank : isBlankString query with
  | true => exact .inl ⟨rfl, by simp [detect, hblank]⟩
  | false =>
    have hkinds := kinds_issuesIn_sublist (normalizeText query.toList)
    refine .inr ⟨issuesIn (normalizeText query.toList), by simp [detect, hblank],
      hkinds.nodup (by decide), hkinds, fun issue hissue => ?_⟩
    rw [normalize, String.toList_ofList]
    exact isStretch_of_mem_issuesIn (isTrimmed_trim _).last hissue

/-- Where no two rules report the same kind, the issues of a kind are those of its rule. -/
theorem filter_kind {rules : List Rule} {kinds : List IssueKind} {rule : Rule} {kind : IssueKind}
    (h : List.Forall₂ ReportsOnly rules kinds) (hkinds : kinds.Nodup)
    (hrule : (rule, kind) ∈ rules.zip kinds) (normalForm : List Char) :
    (rules.filterMap fun rule => rule normalForm).filter (fun issue => issue.kind = kind) =
      (rule normalForm).toList := by
  induction h with
  | nil => cases hrule
  | @cons other first rules kinds hother hrest ih =>
    obtain ⟨hfirst, hkinds⟩ := List.nodup_cons.mp hkinds
    rw [List.filterMap_cons]
    rcases List.mem_cons.mp hrule with hhere | hlater
    · obtain ⟨rfl, rfl⟩ := Prod.mk.inj hhere
      have hothers : (rules.filterMap fun rule => rule normalForm).filter
          (fun issue => issue.kind = kind) = [] := by
        rw [List.filter_eq_nil_iff]
        intro issue hissue hkind
        have hmem := (kinds_filterMap_sublist hrest normalForm).subset (List.mem_map_of_mem hissue)
        exact hfirst (of_decide_eq_true hkind ▸ hmem)
      cases hissue : rule normalForm with
      | none => exact hothers
      | some issue => simp [hother normalForm issue hissue, hothers]
    · have hne : first ≠ kind := by
        rintro rfl
        exact hfirst (List.of_mem_zip hlater).2
      cases hissue : other normalForm with
      | none => exact ih hkinds hlater
      | some issue => simpa [hother normalForm issue hissue, hne] using ih hkinds hlater

def reported (kind : IssueKind) (query : String) : Except InputFault (List String) :=
  (detect query).map fun issues =>
    (issues.filter fun issue => issue.kind = kind).map Issue.fragment

/-- For a query in normal form a kind of issue is reported where its rule finds one. -/
theorem reported_of_normal {rule : Rule} {kind : IssueKind} {query : String}
    (hrule : (rule, kind) ∈ rules.zip detectedKinds) (hnormal : normalize query = query)
    (hink : ∃ x ∈ query.toList, isBlank x = false) :
    reported kind query = .ok ((rule query.toList).toList.map Issue.fragment) := by
  have hblank : isBlankString query = false := by
    rw [isBlankString, isBlankText, List.all_eq_false]
    simpa using hink
  have htext : normalizeText query.toList = query.toList := by
    rw [← String.toList_ofList (l := normalizeText query.toList), ← normalize, hnormal]
  have hfilter := filter_kind rules_report_detectedKinds (by decide) hrule query.toList
  simp [reported, detect, hblank, htext, Except.map, issuesIn, hfilter]

end QueryTuning.Query
