import Mathlib.Data.List.Induction
import Mathlib.Logic.Relation
import QueryTuning.Query.Revision

/-!
# Discarded remedies

A query is revised kind by kind, and kinds that occurred before are passed over. Text that
parses goes on to parse, for a remedy that would break it is discarded, and then the kinds
that are left find the text as it was. Nothing is discarded if the query itself does not
parse.
-/

set_option autoImplicit false

namespace QueryTuning.Query

def Breaks (parses : List Char → Bool) (kind : IssueKind) (text : List Char) : Prop :=
  ∃ remedy, remedy? kind = some remedy ∧ parses (remedy.apply text) = false

def Revision.andThen (earlier later : Revision) : Revision :=
  ⟨later.text, earlier.discarded ++ later.discarded⟩

variable {parses : List Char → Bool} {text : List Char} {r : Revision} {kind : IssueKind}
  {kinds before after : List IssueKind}

theorem reviseStep_needless (h : remedy? kind = none) (mustParse : Bool) :
    reviseStep parses mustParse r kind = r := by
  rw [reviseStep, h]

theorem reviseStep_lenient : (reviseStep parses false r kind).discarded = r.discarded := by
  unfold reviseStep
  split
  · rfl
  · dsimp only
    split <;> rfl

/-- Text that parses is given up only for text that parses. -/
theorem reviseStep_strict (kind : IssueKind) (h : parses r.text = true) :
    (Breaks parses kind r.text ∧
        reviseStep parses true r kind = { r with discarded := r.discarded ++ [kind] }) ∨
      (¬ Breaks parses kind r.text ∧
        ∃ text, parses text = true ∧ reviseStep parses true r kind = { r with text := text }) := by
  unfold reviseStep Breaks
  cases remedy? kind with
  | none => exact .inr ⟨by simp, r.text, h, rfl⟩
  | some remedy =>
    cases hparses : parses (remedy.apply r.text) with
    | true =>
      refine .inr ⟨by simp [hparses], remedy.apply r.text, hparses, ?_⟩
      by_cases hsame : remedy.apply r.text = r.text <;> simp [hsame, hparses]
    | false =>
      have hchanged : remedy.apply r.text ≠ r.text := by
        intro hsame
        rw [hsame, h] at hparses
        cases hparses
      exact .inl ⟨⟨remedy, rfl, hparses⟩, by simp [hchanged, hparses]⟩

/-- What was discarded before has no influence. -/
theorem reviseStep_andThen (mustParse : Bool) (earlier later : Revision) :
    reviseStep parses mustParse (earlier.andThen later) kind =
      earlier.andThen (reviseStep parses mustParse later kind) := by
  unfold reviseStep Revision.andThen
  cases remedy? kind with
  | none => rfl
  | some remedy =>
    by_cases hsame : remedy.apply later.text = later.text
    · simp [hsame]
    · by_cases hbreaks : (mustParse && !parses (remedy.apply later.text)) = true <;>
        simp [hsame, hbreaks]

theorem distinctKinds_append_singleton (kinds : List IssueKind) (kind : IssueKind) :
    reviseText.distinctKinds (kinds ++ [kind]) =
      if kind ∈ reviseText.distinctKinds kinds then reviseText.distinctKinds kinds
      else reviseText.distinctKinds kinds ++ [kind] := by
  rw [reviseText.distinctKinds, List.foldl_append]
  rfl

theorem mem_distinctKinds : kind ∈ reviseText.distinctKinds kinds ↔ kind ∈ kinds := by
  induction kinds using List.reverseRecOn with
  | nil => rfl
  | append_singleton kinds last ih =>
    rw [distinctKinds_append_singleton, List.mem_append, List.mem_singleton, ← ih]
    split
    next hseen =>
      constructor
      · exact .inl
      · rintro (h | rfl)
        · exact h
        · exact hseen
    · rw [List.mem_append, List.mem_singleton]

theorem reviseText_nil : reviseText parses [] text = ⟨text, []⟩ := rfl

/-- A kind at the end of the list is tried last, unless it was tried before. -/
theorem reviseText_append_singleton :
    reviseText parses (kinds ++ [kind]) text =
      if kind ∈ kinds then reviseText parses kinds text
      else reviseStep parses (parses text) (reviseText parses kinds text) kind := by
  rw [reviseText, distinctKinds_append_singleton]
  simp only [mem_distinctKinds]
  split
  · rfl
  · rw [List.foldl_append]
    rfl

theorem reviseText_parses (kinds : List IssueKind) (h : parses text = true) :
    parses (reviseText parses kinds text).text = true := by
  induction kinds using List.reverseRecOn with
  | nil => exact h
  | append_singleton kinds kind ih =>
    rw [reviseText_append_singleton]
    split
    · exact ih
    · rw [h]
      rcases reviseStep_strict kind ih with ⟨-, hstep⟩ | ⟨-, later, hlater, hstep⟩
      · rw [hstep]
        exact ih
      · rw [hstep]
        exact hlater

theorem discarded_of_not_parses (h : parses text = false) :
    (reviseText parses kinds text).discarded = [] := by
  induction kinds using List.reverseRecOn with
  | nil => rfl
  | append_singleton kinds kind ih =>
    rw [reviseText_append_singleton]
    split
    · exact ih
    · rw [h, reviseStep_lenient, ih]

theorem mem_of_mem_discarded (h : kind ∈ (reviseText parses kinds text).discarded) :
    kind ∈ kinds := by
  cases hparses : parses text with
  | false => simp [discarded_of_not_parses hparses] at h
  | true =>
    induction kinds using List.reverseRecOn with
    | nil => simp [reviseText_nil] at h
    | append_singleton kinds last ih =>
      rw [List.mem_append, List.mem_singleton]
      rw [reviseText_append_singleton] at h
      split at h
      · exact .inl (ih h)
      · rw [hparses] at h
        rcases reviseStep_strict last (reviseText_parses kinds hparses) with
          ⟨-, hstep⟩ | ⟨-, later, -, hstep⟩
        · rw [hstep, List.mem_append, List.mem_singleton] at h
          exact h.imp_left ih
        · rw [hstep] at h
          exact .inl (ih h)

/-- Kinds are tried on the text that those before them leave. -/
theorem reviseText_append (h : parses text = true) :
    reviseText parses (before ++ after) text =
      (reviseText parses before text).andThen
        (reviseText parses (after.filter (· ∉ before)) (reviseText parses before text).text) := by
  induction after using List.reverseRecOn with
  | nil => simp [reviseText_nil, Revision.andThen]
  | append_singleton after kind ih =>
    rw [← List.append_assoc, reviseText_append_singleton, ih, List.filter_append]
    by_cases hbefore : kind ∈ before
    · simp [hbefore]
    · have hfilter : [kind].filter (· ∉ before) = [kind] := by simp [hbefore]
      have hmem : kind ∈ after.filter (· ∉ before) ↔ kind ∈ before ++ after := by simp [hbefore]
      rw [hfilter, reviseText_append_singleton, h, reviseText_parses before h]
      simp only [hmem]
      split
      · rfl
      · rw [reviseStep_andThen]

/-- The remedy of a kind is tried on the text that the kinds before it leave. -/
theorem mem_discarded (hnew : kind ∉ before) :
    kind ∈ (reviseText parses (before ++ kind :: after) text).discarded ↔
      parses text = true ∧ Breaks parses kind (reviseText parses before text).text := by
  cases hparses : parses text with
  | false => simp [discarded_of_not_parses hparses]
  | true =>
    have hearlier : kind ∉ (reviseText parses before text).discarded := fun h =>
      hnew (mem_of_mem_discarded h)
    have hlater : ∀ text, kind ∉
        (reviseText parses (after.filter (· ∉ before ++ [kind])) text).discarded := fun text h => by
      simpa using mem_of_mem_discarded h
    rw [← List.singleton_append, ← List.append_assoc, reviseText_append hparses,
      reviseText_append_singleton, if_neg hnew, hparses, Revision.andThen, List.mem_append,
      or_iff_left (hlater _)]
    rcases reviseStep_strict kind (reviseText_parses before hparses) with
      ⟨hbreaks, hstep⟩ | ⟨hkeeps, later, -, hstep⟩
    · rw [hstep]
      simp [hbreaks]
    · rw [hstep]
      simp [hkeeps, hearlier]

/-- A discarded remedy leaves the text as it was, and the kinds that are left are tried on that. -/
theorem revision_of_discarded (hnew : kind ∉ before)
    (h : kind ∈ (reviseText parses (before ++ kind :: after) text).discarded) :
    (reviseText parses (before ++ [kind]) text).text = (reviseText parses before text).text ∧
      reviseText parses (before ++ kind :: after) text =
        (reviseText parses (before ++ [kind]) text).andThen
          (reviseText parses (after.filter (· ∉ before ++ [kind]))
            (reviseText parses before text).text) := by
  obtain ⟨hparses, hbreaks⟩ := (mem_discarded hnew).mp h
  have hkept : (reviseText parses (before ++ [kind]) text).text =
      (reviseText parses before text).text := by
    rw [reviseText_append_singleton, if_neg hnew, hparses]
    rcases reviseStep_strict kind (reviseText_parses before hparses) with
      ⟨-, hstep⟩ | ⟨hkeeps, -⟩
    · rw [hstep]
    · exact absurd hbreaks hkeeps
  refine ⟨hkept, ?_⟩
  rw [← List.singleton_append, ← List.append_assoc, reviseText_append hparses, hkept]

/-- A kind that was there before, or that has no remedy, may be listed anywhere. -/
theorem reviseText_insert (h : kind ∈ before ∨ remedy? kind = none) :
    reviseText parses (before ++ kind :: after) text =
      reviseText parses (before ++ after) text := by
  induction after using List.reverseRecOn with
  | nil =>
    rw [reviseText_append_singleton, List.append_nil]
    split
    · rfl
    next hnew => exact reviseStep_needless (h.resolve_left hnew) _
  | append_singleton after last ih =>
    rw [← List.cons_append, ← List.append_assoc, ← List.append_assoc, reviseText_append_singleton,
      reviseText_append_singleton, ih]
    have hmore : last ∈ before ++ kind :: after ↔ last = kind ∨ last ∈ before ++ after := by
      rw [List.mem_append, List.mem_cons, List.mem_append, or_left_comm]
    by_cases hmem : last ∈ before ++ after
    · rw [if_pos (hmore.mpr (.inr hmem)), if_pos hmem]
    · rw [if_neg hmem]
      split
      next hpadded =>
        obtain rfl : last = kind := (hmore.mp hpadded).resolve_right hmem
        have hnew : last ∉ before := fun h => hmem (List.mem_append_left after h)
        rw [reviseStep_needless (h.resolve_left hnew)]
      · rfl

def Pads (issues more : List Issue) : Prop :=
  ∃ before issue after, issues = before ++ after ∧ more = before ++ issue :: after ∧
    (issue.kind ∈ before.map Issue.kind ∨ remedy? issue.kind = none)

theorem revise_padded {dialect : Dialect} {query : String} {issues more : List Issue}
    (h : Relation.ReflTransGen Pads issues more) :
    revise dialect (more.map Issue.kind) query = revise dialect (issues.map Issue.kind) query := by
  induction h with
  | refl => rfl
  | tail _ hpads ih =>
    obtain ⟨before, issue, after, rfl, rfl, hidle⟩ := hpads
    rw [← ih, revise, List.map_append, List.map_cons, reviseText_insert hidle, ← List.map_append,
      revise]

/-- Text that parses is revised to text that parses. A remedy is discarded exactly if it would
break such a text; the text stays as it was, and the kinds that are left are tried on it. Nothing is
discarded from text that does not parse, and padding changes nothing. -/
theorem revise_is_conservative (dialect : Dialect) (query : String) (issues : List Issue) :
    let revised := fun issues : List Issue => revise dialect (issues.map Issue.kind) query
    (dialect.parses query.toList = true → dialect.parses (revised issues).text = true) ∧
      (∀ before issue after, issues = before ++ issue :: after →
        issue.kind ∉ before.map Issue.kind →
          (issue.kind ∈ (revised issues).discarded ↔
            dialect.parses query.toList = true ∧
              Breaks dialect.parses issue.kind (revised before).text) ∧
          (issue.kind ∈ (revised issues).discarded →
            (revised (before ++ [issue])).text = (revised before).text ∧
              revised issues = (revised (before ++ [issue])).andThen
                (reviseText dialect.parses
                  ((after.map Issue.kind).filter (· ∉ (before ++ [issue]).map Issue.kind))
                  (revised before).text))) ∧
      (dialect.parses query.toList = false → (revised issues).discarded = []) ∧
      ∀ more, Relation.ReflTransGen Pads issues more → revised more = revised issues := by
  refine ⟨fun h => reviseText_parses _ h, ?_, fun h => discarded_of_not_parses h,
    fun more hmore => revise_padded hmore⟩
  rintro before issue after rfl hnew
  simp only [revise, List.map_append, List.map_cons, List.map_nil]
  exact ⟨mem_discarded hnew, revision_of_discarded hnew⟩

def hintedDialect : Dialect := ⟨fun text => Text.occursIn "NOLOCK".toList text, fun _ => none⟩

theorem hint_stays_and_distinct_goes :
    let query := "SELECT DISTINCT Id FROM Orders WITH (NOLOCK)"
    let hint : Issue := ⟨.dirtyRead, "hint", "WITH (NOLOCK)", .medium⟩
    let distinct : Issue := ⟨.unnecessaryDistinct, "distinct", "SELECT DISTINCT", .minor⟩
    let revised := fun issues : List Issue => revise hintedDialect (issues.map Issue.kind) query
    hintedDialect.parses (revised [hint, distinct]).text = true ∧
      (revised [hint]).text = query.toList ∧
      revised [hint, distinct] = ⟨"SELECT Id FROM Orders WITH (NOLOCK)".toList, [.dirtyRead]⟩ ∧
      revised [hint, distinct, hint] = revised [hint, distinct] ∧
      (revise ⟨fun _ => false, fun _ => none⟩ [.dirtyRead] query).discarded = [] := by
  intro query hint distinct revised
  have hquery : hintedDialect.parses query.toList = true := by decide +kernel
  have hbreaks : Breaks hintedDialect.parses .dirtyRead query.toList :=
    ⟨⟨noLockWithBlanks, []⟩, rfl, by decide +kernel⟩
  obtain ⟨hparses, hdiscards, -, hpadded⟩ :=
    revise_is_conservative hintedDialect query [hint, distinct]
  obtain ⟨hexact, hdiscarded⟩ := hdiscards [] hint [distinct] rfl (by simp)
  obtain ⟨htext, hrest⟩ := hdiscarded (hexact.mpr ⟨hquery, hbreaks⟩)
  have hpads : Pads [hint, distinct] [hint, distinct, hint] :=
    ⟨[hint, distinct], hint, [], rfl, rfl, .inl (by simp)⟩
  refine ⟨hparses hquery, htext, hrest.trans (by decide +kernel), hpadded _ (.single hpads), ?_⟩
  exact (revise_is_conservative ⟨fun _ => false, fun _ => none⟩ query [hint]).2.2.1 rfl

end QueryTuning.Query
