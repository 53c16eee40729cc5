import QueryTuning.Proofs.Analysis.Steps
import QueryTuning.Proofs.Query.Discarding
import QueryTuning.Proofs.Query.RevisedWords

/-!
# Issues and their remedies

An issue with a remedy is looked for in the normal form of a query and remedied in its text
as written. What was found in the one is found in the other, as long as no comment is taken
out on the way to the normal form: only blanks differ then, and each of the two patterns takes
blanks in whole runs. A remedy replaces a stretch by a shorter one, so a query is changed
exactly if an issue with a remedy was reported, and then it gets shorter.
-/

set_option autoImplicit false

namespace QueryTuning.Query

open Pattern Text

variable {text : List Char} {issue : Issue} {kind : IssueKind} {r : Remedy} {rs : List Remedy}
  {c d : Cursor}

theorem remedy?_cases (h : remedy? kind = some r) :
    (kind = .unnecessaryDistinct ∧ r = selectionRemedy) ∨ (kind = .dirtyRead ∧ r = hintRemedy) := by
  cases kind <;> cases h
  · exact .inr ⟨rfl, rfl⟩
  · exact .inl ⟨rfl, rfl⟩

def reportedPattern : IssueKind → Option Pattern
  | .unnecessaryDistinct => some selectDistinct
  | .dirtyRead => some noLockHint
  | _ => none

/-- An issue has no remedy, or it shows the first stretch of the pattern for its kind. -/
theorem reported_of_mem_issuesIn (hissue : issue ∈ issuesIn text) :
    reportedPattern issue.kind = none ∨
      ∃ p h, reportedPattern issue.kind = some p ∧ find? [p] (.ofText text) = some h ∧
        issue.fragment = String.ofList h.text := by
  have hfirst : ∀ {p : Pattern} {kind : IssueKind} {severity : Severity} {description : String},
      reportedPattern kind = none ∨ reportedPattern kind = some p →
        reportFirst p kind severity description text = some issue →
          reportedPattern issue.kind = none ∨
            ∃ p h, reportedPattern issue.kind = some p ∧ find? [p] (.ofText text) = some h ∧
              issue.fragment = String.ofList h.text := by
    intro p kind severity description hkind hreport
    obtain ⟨h, hfind, rfl⟩ := Option.map_eq_some_iff.mp hreport
    exact hkind.imp id fun hkind => ⟨p, h, hkind, hfind, rfl⟩
  obtain ⟨rule, hrule, hreport⟩ := List.mem_filterMap.mp hissue
  simp only [rules, List.mem_cons, List.not_mem_nil, or_false] at hrule
  rcases hrule with rfl | rfl | rfl | rfl | rfl | rfl | rfl
  · exact hfirst (.inl rfl) hreport
  · exact hfirst (.inr rfl) hreport
  · exact hfirst (.inl rfl) hreport
  · rcases Option.or_eq_some_iff.mp hreport with hreport | ⟨-, hreport⟩
    · obtain ⟨h, -, rfl⟩ := Option.map_eq_some_iff.mp hreport
      exact .inl rfl
    · exact hfirst (.inl rfl) hreport
  · exact hfirst (.inr rfl) hreport
  · obtain ⟨h, -, rfl⟩ := Option.map_eq_some_iff.mp hreport
    exact .inl rfl
  · obtain ⟨h, -, rfl⟩ := Option.map_eq_some_iff.mp hreport
    exact .inl rfl

theorem spans_alone (t : List Char) : (Cursor.ofText t).Spans t ⟨t.getLast?, []⟩ :=
  ⟨(List.append_nil t).symm, by simp [Cursor.ofText]⟩

theorem selectionRemedy_apply {t : List Char} (hspan : c.Spans t d)
    (hd : d ∈ ends selectDistinct c) : selectionRemedy.apply t = "SELECT".toList := by
  obtain ⟨-, -, s, b, n, hparts, hall⟩ := selection_of_mem_ends hd
  obtain rfl : t = s ++ (b ++ n) := by rw [← hspan.upTo, hall.upTo]
  have hends := ends_selection hparts (spans_alone _) (by simp [Cursor.ofText]) startsOutside_nil
  refine replaceFrom_whole hends ?_ rfl
  simp [Cursor.ofText, hparts.apart]

theorem hintRemedy_apply {t : List Char} (hspan : c.Spans t d) (hd : d ∈ ends noLockHint c) :
    hintRemedy.apply t = [] := by
  obtain ⟨-, w, b₁, b₂, n, b₃, hparts, hall⟩ := hint_of_mem_ends hd
  obtain rfl : t = w ++ (b₁ ++ (['('] ++ (b₂ ++ (n ++ (b₃ ++ [')']))))) := by
    rw [← hspan.upTo, hall.upTo]
  have hends := ends_hint hparts (spans_alone _) (by simp [Cursor.ofText])
  have hblanks : ends noLockWithBlanks (Cursor.ofText _) = _ :=
    (ends_gap (t := []) beginsInk_noLockHint (by simp) (Cursor.spans_nil.mpr rfl)
      (startsOutside_reading hparts.opening (by decide) (by decide) _)).trans hends
  refine replaceFrom_whole hblanks ?_ rfl
  simp [Cursor.ofText]

/-- The fragment of a needless DISTINCT becomes the plain keyword, and nothing is left of any
other fragment. -/
theorem reviseFragment_eq (hissue : issue ∈ issuesIn text) :
    reviseFragment issue = if issue.kind = .unnecessaryDistinct then "SELECT" else "" := by
  rcases reported_of_mem_issuesIn hissue with hnone | ⟨p, h, hp, hfind, hfragment⟩
  · cases hkind : issue.kind <;> simp_all [reportedPattern, reviseFragment, remedy?]
  · have hfound := foundFrom_of_find? hfind
    have hstop := List.mem_of_head? hfound.head?_ends
    have hchars : issue.fragment.toList = h.text := by rw [hfragment, String.toList_ofList]
    cases hkind : issue.kind <;> rw [hkind] at hp <;> cases hp
    · have happly := hintRemedy_apply hfound.spans hstop
      rw [hintRemedy] at happly
      simp [reviseFragment, hkind, remedy?, hchars, happly]
      rfl
    · have happly := selectionRemedy_apply hfound.spans hstop
      rw [selectionRemedy] at happly
      rw [reviseFragment, hkind]
      simp only [remedy?, hchars, happly, if_true]
      decide

/-- With no comment to take out, the normal form has the ink of the text. -/
theorem runs_normalizeText (hlines : ¬ ['-', '-'] <:+: text) (hblocks : ¬ ['/', '*'] <:+: text) :
    runs isInk (normalizeText text) = runs isInk text := by
  rw [normalizeText_eq, live_of_no_pair hlines, outsideBlocks_plain hblocks, runs_tidy fun _ => id]

/-- What is reported for the normal form can be remedied in the text. -/
theorem occurs_of_reported (hink : runs isInk (normalizeText text) = runs isInk text)
    (hissue : issue ∈ issuesIn (normalizeText text)) (hr : remedy? issue.kind = some r) :
    Occurs r.pattern (.ofText text) := by
  rcases reported_of_mem_issuesIn hissue with hnone | ⟨p, h, hp, hfind, -⟩
  · rcases remedy?_cases hr with ⟨hkind, rfl⟩ | ⟨hkind, rfl⟩ <;> rw [hkind] at hnone <;> cases hnone
  · have hoccurs := occurs_of_find? hfind
    rcases remedy?_cases hr with ⟨hkind, rfl⟩ | ⟨hkind, rfl⟩ <;> rw [hkind] at hp <;> cases hp
    · exact hoccurs.respaced ignoresSpacing_selectDistinct beginsInk_selectDistinct hink
    · obtain ⟨t, m, d, ht, hd⟩ :=
        hoccurs.respaced ignoresSpacing_noLockHint beginsInk_noLockHint hink
      -- The blanks before a hint may be left to what comes before it.
      exact ⟨t, m, d, ht, mem_ends_seq.mpr
        ⟨m, mem_ends_run0.mpr ⟨[], by simp, Cursor.spans_nil.mpr rfl⟩, hd⟩⟩

def Remedy.Saves (r : Remedy) : Prop :=
  ∀ c d, d ∈ ends r.pattern c → d.rest.length + r.replacement.length < c.rest.length

theorem saves_of_remedy? (hr : remedy? kind = some r) : r.Saves := by
  intro c d hd
  rcases remedy?_cases hr with ⟨-, rfl⟩ | ⟨-, rfl⟩
  · obtain ⟨-, -, s, b, n, hparts, hspan⟩ := selection_of_mem_ends hd
    have hselect : s.length = 6 := hparts.select.length_eq
    have hdistinct : n.length = 8 := hparts.distinct.length_eq
    rw [hspan.rest]
    simp only [selectionRemedy, List.length_append, hselect, hdistinct]
    simp
    omega
  · exact shorter_of_takes rfl hd

namespace Remedy.Saves

theorem length_le (hr : r.Saves) (text : List Char) : (r.apply text).length ≤ text.length :=
  Nat.le_of_add_right_le (length_replaceFrom hr (.ofText text))

theorem length_lt (hr : r.Saves) (hoccurs : Occurs r.pattern (.ofText text)) :
    (r.apply text).length < text.length := by
  have hhits : hitsFrom r.pattern (.ofText text) ≠ [] :=
    hitsFrom_ne_nil (fun m d hd => Nat.lt_of_add_right_lt (hr m d hd)) hoccurs
  exact Nat.lt_of_lt_of_le (Nat.lt_add_of_pos_right (List.length_pos_iff.mpr hhits))
    (length_replaceFrom hr (.ofText text))

end Remedy.Saves

theorem length_applyAll (hsaves : ∀ r ∈ rs, r.Saves) (text : List Char) :
    (applyAll rs text).length ≤ text.length := by
  induction rs generalizing text with
  | nil => exact Nat.le_refl _
  | cons r rs ih =>
    obtain ⟨hr, hrs⟩ := List.forall_mem_cons.mp hsaves
    exact Nat.le_trans (ih hrs (r.apply text)) (hr.length_le text)

/-- The first remedy shortens the text, and those after it do not lengthen it. -/
theorem length_applyAll_lt (hne : rs ≠ []) (hsaves : ∀ r ∈ rs, r.Saves)
    (hoccurs : ∀ r ∈ rs, Occurs r.pattern (.ofText text)) :
    (applyAll rs text).length < text.length := by
  cases rs with
  | nil => exact absurd rfl hne
  | cons r rs =>
    obtain ⟨hr, hrs⟩ := List.forall_mem_cons.mp hsaves
    exact Nat.lt_of_le_of_lt (length_applyAll hrs (r.apply text)) (hr.length_lt (hoccurs r (by simp)))

theorem mem_remedies {kinds : List IssueKind} :
    r ∈ remedies kinds ↔ ∃ kind ∈ kinds, remedy? kind = some r := by
  simp only [remedies, List.mem_filterMap, mem_distinctKinds]

/-- The remedies for what is reported shorten a text in which no comment is opened. -/
theorem length_reported_lt (hlines : ¬ ['-', '-'] <:+: text) (hblocks : ¬ ['/', '*'] <:+: text)
    (hne : remedies ((issuesIn (normalizeText text)).map Issue.kind) ≠ []) :
    (applyAll (remedies ((issuesIn (normalizeText text)).map Issue.kind)) text).length <
      text.length := by
  refine length_applyAll_lt hne (fun r hr => ?_) fun r hr => ?_
  · obtain ⟨kind, -, hremedy⟩ := mem_remedies.mp hr
    exact saves_of_remedy? hremedy
  · obtain ⟨kind, hkind, hremedy⟩ := mem_remedies.mp hr
    obtain ⟨issue, hissue, rfl⟩ := List.mem_map.mp hkind
    exact occurs_of_reported (runs_normalizeText hlines hblocks) hissue hremedy

theorem remedies_eq_nil_iff {issues : List Issue} :
    remedies (issues.map Issue.kind) = [] ↔
      ¬ ∃ issue ∈ issues, issue.kind = .unnecessaryDistinct ∨ issue.kind = .dirtyRead := by
  have hremedied : ∀ kind, remedy? kind = none ↔
      ¬ (kind = .unnecessaryDistinct ∨ kind = .dirtyRead) := by
    intro kind
    cases kind <;> simp [remedy?]
  have hkinds : ∀ kind, kind ∈ reviseText.distinctKinds (issues.map Issue.kind) ↔
      ∃ issue ∈ issues, issue.kind = kind := fun kind => by
    rw [mem_distinctKinds, List.mem_map]
  simp only [remedies, List.filterMap_eq_nil_iff, hkinds, hremedied]
  constructor
  · rintro h ⟨issue, hissue, hkind⟩
    exact h issue.kind ⟨issue, hissue, rfl⟩ hkind
  · rintro h kind ⟨issue, hissue, rfl⟩ hkind
    exact h ⟨issue, hissue, hkind⟩

theorem discarded_permissive (kinds : List IssueKind) (query : String) :
    (revise .permissive kinds query).discarded = [] := by
  apply List.eq_nil_iff_forall_not_mem.mpr
  intro kind hkind
  obtain ⟨before, later, hsplit, hnew⟩ := List.eq_append_cons_of_mem (mem_of_mem_discarded hkind)
  rw [revise, hsplit] at hkind
  obtain ⟨-, remedy, -, hbreaks⟩ := (mem_discarded hnew).mp hkind
  cases hbreaks

/-- Where every text counts as parsing, all remedies are applied and nothing else happens. -/
theorem revise_permitted {ν : Type} {a : Analyzer} {query : String}
    (hparses : ∀ text, a.dialect.parses text = true) (hinked : isBlankString query = false) :
    (a.revise query : Task ν String) =
      pure (String.ofList (applyAll (remedies ((Analysis.issuesOf query).map Issue.kind))
        query.toList)) := by
  have hdialect (kinds : List IssueKind) :
      revise a.dialect kinds query = revise .permissive kinds query :=
    revise_congr hparses kinds query
  rw [Analyzer.revise, Analyzer.accepted_iff.mpr hinked, Analysis.detect_eq hinked]
  change Analysis.reviseFor a.dialect query _ = _
  rw [Analysis.reviseFor, hdialect, discarded_permissive, revise_permissive]
  rfl

/-- The fragment of a needless DISTINCT is revised to the plain keyword and every other fragment
to nothing. If every text counts as parsing and a query opens no comment, revising it changes it
exactly if an issue with a remedy was reported, and then makes it shorter. -/
theorem revision_agrees_with_issues {query : String} (hinked : isBlankString query = false) :
    ∃ issues, detect query = .ok issues ∧
      (∀ issue ∈ issues,
        reviseFragment issue = if issue.kind = .unnecessaryDistinct then "SELECT" else "") ∧
      ∀ {ν : Type} (a : Analyzer), (∀ text, a.dialect.parses text = true) →
        ¬ "--".toList <:+: query.toList → ¬ "/*".toList <:+: query.toList →
          ∃ optimized, (a.revise query : Task ν String) = pure optimized ∧
            (optimized ≠ query ↔
              ∃ issue ∈ issues, issue.kind = .unnecessaryDistinct ∨ issue.kind = .dirtyRead) ∧
            (optimized ≠ query → optimized.length < query.length) := by
  refine ⟨_, Analysis.detect_eq hinked, fun issue hissue => reviseFragment_eq hissue, ?_⟩
  intro ν a hparses hlines hblocks
  refine ⟨_, revise_permitted hparses hinked, ?_⟩
  have hreported : remedies ((Analysis.issuesOf query).map Issue.kind) = [] ↔ _ :=
    remedies_eq_nil_iff
  by_cases hnone : remedies ((Analysis.issuesOf query).map Issue.kind) = []
  · have hsame : String.ofList (applyAll (remedies ((Analysis.issuesOf query).map Issue.kind))
        query.toList) = query := by
      rw [hnone]
      exact String.ofList_toList
    rw [hsame]
    exact ⟨⟨fun h => absurd rfl h, fun h => absurd h (hreported.mp hnone)⟩, fun h => absurd rfl h⟩
  · have hshorter : (String.ofList (applyAll (remedies ((Analysis.issuesOf query).map Issue.kind))
        query.toList)).length < query.length := by
      rw [String.length_ofList, ← String.length_toList]
      exact length_reported_lt hlines hblocks hnone
    refine ⟨⟨fun _ => not_not.mp fun h => hnone (hreported.mpr h), fun _ hsame => ?_⟩,
      fun _ => hshorter⟩
    rw [hsame] at hshorter
    exact Nat.lt_irrefl _ hshorter

def scatteredQuery : String :=
  "select\u00a0\n  Distinct Id FROM Orders\n\tWITH\t( NoLock ) WHERE Id = 1"

theorem scattered_query_gets_shorter :
    isBlankString scatteredQuery = false ∧ ¬ "--".toList <:+: scatteredQuery.toList ∧
      ¬ "/*".toList <:+: scatteredQuery.toList ∧
      ∃ issues optimized, detect scatteredQuery = .ok issues ∧
        (∃ issue ∈ issues, issue.kind = .unnecessaryDistinct ∧ reviseFragment issue = "SELECT") ∧
        ((⟨{}, .permissive⟩ : Analyzer).revise scatteredQuery : Task Unit String) =
          pure optimized ∧ optimized ≠ scatteredQuery ∧
        optimized.length < scatteredQuery.length := by
  have hinked : isBlankString scatteredQuery = false := by decide +kernel
  have hlines : ¬ "--".toList <:+: scatteredQuery.toList := by decide +kernel
  have hblocks : ¬ "/*".toList <:+: scatteredQuery.toList := by decide +kernel
  obtain ⟨issues, hissues, hfragments, hrevised⟩ := revision_agrees_with_issues hinked
  obtain ⟨optimized, hoptimized, hiff, hshorter⟩ :=
    hrevised (ν := Unit) ⟨{}, .permissive⟩ (fun _ => rfl) hlines hblocks
  have hreported : ∃ issue ∈ issuesIn (normalizeText scatteredQuery.toList),
      issue.kind = .unnecessaryDistinct := by decide +kernel
  rw [Analysis.detect_eq hinked] at hissues
  cases hissues
  obtain ⟨issue, hissue, hkind⟩ := hreported
  have hchanged := hiff.mpr ⟨issue, hissue, .inl hkind⟩
  refine ⟨hinked, hlines, hblocks, _, optimized, Analysis.detect_eq hinked,
    ⟨issue, hissue, hkind, ?_⟩, hoptimized, hchanged, hshorter hchanged⟩
  rw [hfragments issue hissue, if_pos hkind]

end QueryTuning.Query
