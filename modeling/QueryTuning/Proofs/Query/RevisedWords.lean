import QueryTuning.Proofs.Query.Issues
import QueryTuning.Proofs.Query.Remedies

/-!
# The words of a revised query

Revising a query for the issues found in it applies the remedies one after the other,
the hint before the selection. In a query of ASCII whose only comments are line comments
all words that matter stay outside comments exactly if each remedy spares the lines on
which its hits stop.
-/

set_option autoImplicit false

namespace QueryTuning.Query

open Pattern Text
open scoped List

variable {text : List Char}

def Remedy.Cuts (r : Remedy) (text : List Char) : Prop :=
  ∀ h ∈ findAll [r.pattern] text, Cut r.replacement h

def Remedy.Spares (r : Remedy) (text : List Char) : Prop :=
  ∀ h ∈ findAll [r.pattern] text, SparesLine r.pattern r.replacement text h

theorem outsideBlocks_plain (h : ¬ ['/', '*'] <:+: text) : outsideBlocks text = text := by
  induction text with
  | nil => exact outsideBlocks_nil
  | cons c cs ih =>
    have hnone : afterBlock (c :: cs) = none := by
      unfold afterBlock
      split
      next ds heq => exact absurd ⟨[], ds, heq.symm⟩ h
      · rfl
    rw [outsideBlocks_kept hnone, ih fun hcs => h (hcs.trans (List.suffix_cons c cs).isInfix)]

theorem lastingWords_normalizeText (h : ¬ ['/', '*'] <:+: text) :
    lastingWords (normalizeText text) = lastingWords (live false text) := by
  rw [normalizeText_eq, lastingWords_tidy,
    outsideBlocks_plain fun hlive => h (pair_of_live (by decide) hlive)]

namespace Remedy

variable {r : Remedy}

theorem blockless_apply (hcuts : r.Cuts text) (h : ¬ ['/', '*'] <:+: text) :
    ¬ ['/', '*'] <:+: r.apply text := fun hpair =>
  h (pair_of_replaceFrom (by decide) (by decide) (by decide) hcuts hpair)

theorem ascii_apply (hr : ∀ c ∈ r.replacement, IsAscii c) (h : ∀ c ∈ text, IsAscii c) :
    ∀ c ∈ r.apply text, IsAscii c := fun c hc =>
  (mem_replaceFrom hc).elim (h c) (hr c)

theorem words_apply (hcuts : r.Cuts text) (h : ¬ ['/', '*'] <:+: text) :
    LeftIff (r.Spares text) (lastingWords (normalizeText (r.apply text)))
      (lastingWords (normalizeText text)) := by
  rw [lastingWords_normalizeText h, lastingWords_normalizeText (blockless_apply hcuts h)]
  exact words_replaceFrom (Cursor.spans_nil.mpr rfl) (by simp) hcuts

end Remedy

def hintRemedy : Remedy := ⟨noLockWithBlanks, []⟩

def selectionRemedy : Remedy := ⟨selectDistinct, "SELECT".toList⟩

theorem cuts_hintRemedy (hascii : ∀ c ∈ text, IsAscii c) (hspaced : HintsSpaced text) :
    hintRemedy.Cuts text := fun _ hh =>
  have ⟨_, hspan, hstop⟩ := mem_hitsFrom hh
  cut_of_hint hascii hspaced hspan hstop

theorem cuts_selectionRemedy (hascii : ∀ c ∈ text, IsAscii c) : selectionRemedy.Cuts text :=
  fun _ hh =>
  have ⟨_, hspan, hstop⟩ := mem_hitsFrom hh
  cut_of_selection hascii hspan hstop

def SparesAll : List Remedy → List Char → Prop
  | [], _ => True
  | r :: rs, text => r.Spares text ∧ SparesAll rs (r.apply text)

def applyAll (rs : List Remedy) (text : List Char) : List Char :=
  rs.foldl (fun text r => r.apply text) text

instance (r : Remedy) : DecidablePred r.Spares := fun text =>
  inferInstanceAs (Decidable (∀ h ∈ findAll [r.pattern] text,
    LeavesLineOpen ((Cursor.ofText text).upTo h.start) → '\n' ∈ h.text →
      lastingWords (live false
        ((replaceFrom r.pattern r.replacement h.stop).takeWhile notNewline)) = []))

instance decidableSparesAll : (rs : List Remedy) → DecidablePred (SparesAll rs)
  | [], _ => inferInstanceAs (Decidable True)
  | r :: rs, text =>
    have := decidableSparesAll rs (r.apply text)
    inferInstanceAs (Decidable (r.Spares text ∧ SparesAll rs (r.apply text)))

/-- A remedy goes first and others follow. -/
theorem words_applyAll_cons {r : Remedy} {rs : List Remedy} (hcuts : r.Cuts text)
    (h : ¬ ['/', '*'] <:+: text)
    (hrest : LeftIff (SparesAll rs (r.apply text))
      (lastingWords (normalizeText (applyAll rs (r.apply text))))
      (lastingWords (normalizeText (r.apply text)))) :
    LeftIff (SparesAll (r :: rs) text) (lastingWords (normalizeText (applyAll (r :: rs) text)))
      (lastingWords (normalizeText text)) :=
  (r.words_apply hcuts h).trans hrest

theorem words_applyAll {rs : List Remedy} (hrs : rs <+ [hintRemedy, selectionRemedy])
    (hascii : ∀ c ∈ text, IsAscii c) (h : ¬ ['/', '*'] <:+: text) (hspaced : HintsSpaced text) :
    LeftIff (SparesAll rs text) (lastingWords (normalizeText (applyAll rs text)))
      (lastingWords (normalizeText text)) := by
  have hselection : ∀ {rs : List Remedy} {text : List Char}, rs <+ [selectionRemedy] →
      (∀ c ∈ text, IsAscii c) → ¬ ['/', '*'] <:+: text →
      LeftIff (SparesAll rs text) (lastingWords (normalizeText (applyAll rs text)))
        (lastingWords (normalizeText text)) := by
    intro rs text hrs hascii h
    rcases List.sublist_singleton.mp hrs with rfl | rfl
    · exact .refl trivial _
    · exact words_applyAll_cons (cuts_selectionRemedy hascii) h (.refl trivial _)
  rcases List.sublist_cons_iff.mp hrs with hnone | ⟨later, rfl, hlater⟩
  · exact hselection hnone hascii h
  · have hcuts := cuts_hintRemedy hascii hspaced
    exact words_applyAll_cons hcuts h (hselection hlater
      (Remedy.ascii_apply (by simp [hintRemedy]) hascii) (Remedy.blockless_apply hcuts h))

def remedies (kinds : List IssueKind) : List Remedy :=
  (reviseText.distinctKinds kinds).filterMap remedy?

theorem revise_permissive (kinds : List IssueKind) (query : String) :
    (revise .permissive kinds query).text = applyAll (remedies kinds) query.toList := by
  have hsteps : ∀ (kinds : List IssueKind) (r : Revision),
      (kinds.foldl (reviseStep Dialect.permissive.parses
        (Dialect.permissive.parses query.toList)) r).text =
        applyAll (kinds.filterMap remedy?) r.text := by
    intro kinds
    induction kinds with
    | nil => exact fun r => rfl
    | cons kind kinds ih =>
      intro r
      -- A remedy that changes nothing is passed over, which leaves the same text.
      rw [List.foldl_cons, ih]
      cases hkind : remedy? kind with
      | none => simp [reviseStep, hkind]
      | some remedy =>
        have hstep : (reviseStep Dialect.permissive.parses
            (Dialect.permissive.parses query.toList) r kind).text = remedy.apply r.text := by
          rw [reviseStep, hkind]
          by_cases hsame : remedy.apply r.text = r.text
          · simp [hsame]
          · simp [hsame, Dialect.permissive]
        rw [hstep, List.filterMap_cons, hkind]
        rfl
  exact hsteps _ _

/-- A dialect counts only by what it parses. -/
theorem revise_congr {dialect dialect' : Dialect}
    (h : ∀ text, dialect.parses text = dialect'.parses text) (kinds : List IssueKind)
    (query : String) : revise dialect kinds query = revise dialect' kinds query := by
  rw [revise, revise, funext h]

theorem distinctKinds_sublist (kinds : List IssueKind) :
    reviseText.distinctKinds kinds <+ kinds := by
  have hfold : ∀ seen : List IssueKind, ∃ new, new <+ kinds ∧
      kinds.foldl (fun seen kind => if kind ∈ seen then seen else seen ++ [kind]) seen =
        seen ++ new := by
    induction kinds with
    | nil => exact fun seen => ⟨[], .slnil, by simp⟩
    | cons kind kinds ih =>
      intro seen
      rw [List.foldl_cons]
      split
      · obtain ⟨new, hnew, heq⟩ := ih seen
        exact ⟨new, hnew.cons kind, heq⟩
      · obtain ⟨new, hnew, heq⟩ := ih (seen ++ [kind])
        exact ⟨kind :: new, hnew.cons_cons kind, by simp [heq]⟩
  obtain ⟨new, hnew, heq⟩ := hfold []
  rw [reviseText.distinctKinds, heq]
  exact hnew

theorem remedies_sublist (normalForm : List Char) :
    remedies ((issuesIn normalForm).map Issue.kind) <+ [hintRemedy, selectionRemedy] :=
  ((distinctKinds_sublist _).trans (kinds_issuesIn_sublist normalForm)).filterMap remedy?

/-- A query that is not blank, revised for the issues found in it, has all of its lasting words
outside comments exactly if every remedy spares the lines on which its hits stop. -/
theorem words_of_revised_query {query : String} (hascii : ∀ c ∈ query.toList, IsAscii c)
    (hblocks : ¬ ['/', '*'] <:+: query.toList) (hspaced : HintsSpaced query.toList) :
    (isBlankString query = true ∧ detect query = .error .blankQueryText) ∨
      ∃ issues, detect query = .ok issues ∧
        (lastingWords (normalizeText
            (revise .permissive (issues.map Issue.kind) query).text) =
          lastingWords (normalizeText query.toList) ↔
            SparesAll (remedies (issues.map Issue.kind)) query.toList) := by
  cases hblank : isBlankString query with
  | true => exact .inl ⟨rfl, by simp [detect, hblank]⟩
  | false =>
    refine .inr ⟨issuesIn (normalizeText query.toList), by simp [detect, hblank], ?_⟩
    rw [revise_permissive]
    exact (words_applyAll (remedies_sublist _) hascii hblocks hspaced).eq_iff

def hintedQuery : String :=
  "SELECT DISTINCT Id -- WITH (NOLOCK)\nFROM Orders\nWITH (NOLOCK) WHERE Id = 1"

theorem hinted_query_keeps_words :
    (∀ c ∈ hintedQuery.toList, IsAscii c) ∧ ¬ ['/', '*'] <:+: hintedQuery.toList ∧
      HintsSpaced hintedQuery.toList ∧
      ∃ issues, detect hintedQuery = .ok issues ∧
        SparesAll (remedies (issues.map Issue.kind)) hintedQuery.toList ∧
        lastingWords (normalizeText
            (revise .permissive (issues.map Issue.kind) hintedQuery).text) =
          ["SELECT", "ID", "FROM", "ORDERS", "WHERE", "ID", "1"].map String.toList := by
  have hascii : ∀ c ∈ hintedQuery.toList, IsAscii c := by decide +kernel
  have hblocks : ¬ ['/', '*'] <:+: hintedQuery.toList := by decide +kernel
  have hspaced : HintsSpaced hintedQuery.toList := by decide +kernel
  have hkinds : (issuesIn (normalizeText hintedQuery.toList)).map Issue.kind =
      [.dirtyRead, .unnecessaryDistinct] := by decide +kernel
  rcases words_of_revised_query hascii hblocks hspaced with ⟨hblank, -⟩ | ⟨issues, hissues, hiff⟩
  · exact absurd hblank (by decide +kernel)
  · have hfound : issues = issuesIn (normalizeText hintedQuery.toList) := by
      rw [detect, if_neg (by decide +kernel)] at hissues
      exact (Except.ok.inj hissues).symm
    rw [hfound, hkinds] at hiff
    have hspares : SparesAll (remedies [.dirtyRead, .unnecessaryDistinct]) hintedQuery.toList := by
      decide +kernel
    refine ⟨hascii, hblocks, hspaced, issues, hissues, ?_⟩
    rw [hfound, hkinds]
    exact ⟨hspares, (hiff.mpr hspares).trans (by decide +kernel)⟩

/-- The line break that ends a comment goes with the hint after it, and the filter that follows
becomes part of the comment. -/
theorem hint_after_comment_loses_filter :
    let query := "SELECT Id FROM Orders -- all\nWITH (NOLOCK) WHERE Id = 1"
    (∀ c ∈ query.toList, IsAscii c) ∧ ¬ ['/', '*'] <:+: query.toList ∧
      HintsSpaced query.toList ∧
      ∃ issues, detect query = .ok issues ∧
        (revise .permissive (issues.map Issue.kind) query).text =
          "SELECT Id FROM Orders -- all WHERE Id = 1".toList ∧
        lastingWords (normalizeText (revise .permissive (issues.map Issue.kind) query).text) ≠
          lastingWords (normalizeText query.toList) := by
  intro query
  have hkinds : (issuesIn (normalizeText query.toList)).map Issue.kind = [.dirtyRead] := by
    decide +kernel
  refine ⟨by decide +kernel, by decide +kernel, by decide +kernel,
    issuesIn (normalizeText query.toList), ?_, ?_⟩
  · rw [detect, if_neg (by decide +kernel)]
  · rw [hkinds]
    decide +kernel

end QueryTuning.Query
