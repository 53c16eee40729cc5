import Mathlib.Data.List.Permutation
import Mathlib.Data.List.Sort
import QueryTuning.Advice.Suggestion
import QueryTuning.Plan.Reading
import QueryTuning.Proofs.Index.Impact
import QueryTuning.Query.Detection

/-!
# The order of suggestions

Every suggestion has a number as its impact, whatever the plan states. So the suggestions can
be ordered by impact, and there is one order with the highest impact first in which those of
equal impact stay as they were. A limit keeps the front of it.
-/

set_option autoImplicit false

namespace QueryTuning.Advice

open scoped List

section

variable {α β : Type} [LinearOrder β] {key : α → β}

def byKey (key : α → β) (xs : List α) : List α := xs.mergeSort fun a b => decide (key b ≤ key a)

theorem byKey_trans (a b c : α) (hab : decide (key b ≤ key a) = true)
    (hbc : decide (key c ≤ key b) = true) : decide (key c ≤ key a) = true := by
  simp only [decide_eq_true_eq] at hab hbc ⊢
  exact le_trans hbc hab

theorem byKey_total (a b : α) : (decide (key b ≤ key a) || decide (key a ≤ key b)) = true := by
  simpa using le_total (key b) (key a)

theorem pairwise_byKey (xs : List α) : (byKey key xs).Pairwise fun a b => key b ≤ key a := by
  simpa [byKey] using List.pairwise_mergeSort byKey_trans byKey_total xs

/-- Entries with one key keep their order. -/
theorem filter_byKey (xs : List α) (k : β) :
    (byKey key xs).filter (key · = k) = xs.filter (key · = k) := by
  have hsame : (xs.filter (key · = k)).Pairwise fun a b => decide (key b ≤ key a) = true := by
    apply List.pairwise_of_forall_mem_list
    intro a ha b hb
    simp only [List.mem_filter, decide_eq_true_eq] at ha hb ⊢
    rw [ha.2, hb.2]
  have hsublist : xs.filter (key · = k) <+ byKey key xs :=
    List.sublist_mergeSort byKey_trans byKey_total hsame List.filter_sublist
  have hkept := hsublist.filter fun a => decide (key a = k)
  rw [List.filter_filter] at hkept
  simp only [Bool.and_self] at hkept
  exact (hkept.eq_of_length ((List.mergeSort_perm xs _).filter _).length_eq.symm).symm

/-- Two lists with the highest key first are the same if they agree on the entries of each key. -/
theorem eq_of_filter_eq {xs ys : List α} (hxs : xs.Pairwise fun a b => key b ≤ key a)
    (hys : ys.Pairwise fun a b => key b ≤ key a)
    (h : ∀ k, xs.filter (key · = k) = ys.filter (key · = k)) : xs = ys := by
  induction xs generalizing ys with
  | nil =>
    cases ys with
    | nil => rfl
    | cons y ys => simpa using h (key y)
  | cons x xs ih =>
    cases ys with
    | nil => simpa using h (key x)
    | cons y ys =>
      have hmem : ∀ a, a ∈ x :: xs ↔ a ∈ y :: ys := fun a => by
        simpa using Iff.of_eq (congrArg (a ∈ ·) (h (key a)))
      obtain ⟨hx, hxs'⟩ := List.pairwise_cons.mp hxs
      obtain ⟨hy, hys'⟩ := List.pairwise_cons.mp hys
      -- Each of the two first entries occurs in the other list, so both have the highest key.
      have hkey : key x = key y := by
        apply le_antisymm
        · rcases List.mem_cons.mp ((hmem x).mp (by simp)) with rfl | hx'
          · exact le_rfl
          · exact hy x hx'
        · rcases List.mem_cons.mp ((hmem y).mpr (by simp)) with rfl | hy'
          · exact le_rfl
          · exact hx y hy'
      obtain ⟨rfl, -⟩ : x = y ∧ _ := by simpa [hkey] using h (key y)
      have hrest : ∀ k, xs.filter (key · = k) = ys.filter (key · = k) := by
        intro k
        have hk := h k
        by_cases hxk : key x = k
        · simpa [List.filter_cons, hxk] using hk
        · simpa [List.filter_cons, hxk] using hk
      rw [ih hxs' hys' hrest]

end

structure IsRanking (sources ordered : List Suggestion) : Prop where
  perm : ordered ~ sources
  highestFirst : ordered.Pairwise fun a b => b.estimatedImpact.le a.estimatedImpact = true
  keepsOrder : ∀ impact,
    ordered.filter (fun s => s.estimatedImpact.eq impact) =
      sources.filter fun s => s.estimatedImpact.eq impact

def Suggestion.level (s : Suggestion) : WithBot (WithTop Rat) := s.estimatedImpact.level

variable {sources ordered : List Suggestion}

theorem ranked_eq (h : ∀ s ∈ sources, s.estimatedImpact ≠ .nan) :
    ranked sources = byKey Suggestion.level sources := by
  have hsame : ∀ a ∈ sources, ∀ b ∈ sources,
      (!a.estimatedImpact.lt b.estimatedImpact) = decide (b.level ≤ a.level) := by
    intro a ha b hb
    rw [Bool.eq_iff_iff, Bool.not_eq_true', ← Bool.not_eq_true, Binary64.lt_iff (h a ha) (h b hb),
      not_lt, decide_eq_true_iff]
    rfl
  have hmap := List.map_mergeSort (s := fun a b => decide (Suggestion.level b ≤ a.level))
    (f := id) hsame
  rwa [List.map_id, List.map_id] at hmap

theorem filter_level (h : ∀ s ∈ sources, s.estimatedImpact ≠ .nan) {impact : Binary64}
    (himpact : impact ≠ .nan) :
    sources.filter (fun s => s.estimatedImpact.eq impact) =
      sources.filter (·.level = impact.level) := by
  apply List.filter_congr
  intro s hs
  rw [Bool.eq_iff_iff, Binary64.eq_iff (h s hs) himpact, decide_eq_true_iff]
  rfl

theorem isRanking_ranked (h : ∀ s ∈ sources, s.estimatedImpact ≠ .nan) :
    IsRanking sources (ranked sources) := by
  have hperm : ranked sources ~ sources := List.mergeSort_perm _ _
  have hordered : ∀ s ∈ ranked sources, s.estimatedImpact ≠ .nan :=
    fun s hs => h s (hperm.mem_iff.mp hs)
  refine ⟨hperm, ?_, fun impact => ?_⟩
  · rw [ranked_eq h] at hordered ⊢
    exact (pairwise_byKey sources).imp_of_mem fun ha hb hle =>
      (Binary64.le_iff (hordered _ hb) (hordered _ ha)).mpr hle
  · by_cases himpact : impact = .nan
    · simp [himpact, Binary64.eq_nan]
    · rw [filter_level hordered himpact, filter_level h himpact, ranked_eq h]
      exact filter_byKey sources _

theorem IsRanking.unique (h : ∀ s ∈ sources, s.estimatedImpact ≠ .nan)
    (hordered : IsRanking sources ordered) : ordered = ranked sources := by
  have hnumbers : ∀ s ∈ ordered, s.estimatedImpact ≠ .nan :=
    fun s hs => h s (hordered.perm.mem_iff.mp hs)
  have hsorted : ordered.Pairwise fun a b => b.level ≤ a.level :=
    hordered.highestFirst.imp_of_mem fun ha hb hle =>
      (Binary64.le_iff (hnumbers _ hb) (hnumbers _ ha)).mp hle
  rw [ranked_eq h]
  refine eq_of_filter_eq hsorted (pairwise_byKey sources) fun k => ?_
  rw [filter_byKey]
  -- A place that no suggestion has is the place of none of the two lists.
  by_cases hk : ∃ s ∈ sources, s.level = k
  · obtain ⟨s, hs, rfl⟩ := hk
    have hkept := hordered.keepsOrder s.estimatedImpact
    rwa [filter_level hnumbers (h s hs), filter_level h (h s hs)] at hkept
  · have hnone : sources.filter (·.level = k) = [] :=
      List.filter_eq_nil_iff.mpr fun s hs hlevel => hk ⟨s, hs, by simpa using hlevel⟩
    have hperm := hordered.perm.filter fun s => decide (s.level = k)
    rw [hnone] at hperm ⊢
    exact hperm.eq_nil

/-- Whatever a plan states, no suggestion has an impact that is not a number. -/
theorem impacts_are_numbers {issues : List Issue} {e : Plan.Extraction} :
    ∀ s ∈ unranked issues (Index.recommendations e), s.estimatedImpact ≠ .nan := by
  intro s hs
  rcases List.mem_append.mp hs with hs | hs
  · obtain ⟨issue, -, rfl⟩ := List.mem_map.mp hs
    simp [ofIssue]
  · obtain ⟨r, hr, rfl⟩ := List.mem_map.mp hs
    obtain ⟨advisory, -, rfl⟩ := List.mem_map.mp hr
    exact Binary64.ne_nan_of_lt (Index.impactOf_pos advisory)

/-- The suggestions for a query and a plan are the front of their only ranking. Those that a
limit cuts off have no higher impact than those that it keeps. -/
theorem suggestions_are_ranked {query : String} (hinked : isBlankString query = false)
    (mode : Plan.Mode) (document : String) {limit : Int} (hlimit : 1 ≤ limit) :
    ∃ issues, Query.detect query = .ok issues ∧
      let recommendations := Index.recommendations (Plan.interpret mode document)
      let sources := unranked issues recommendations
      let kept := suggestions issues recommendations (some limit)
      (∀ s ∈ sources, s.estimatedImpact ≠ .nan) ∧
      ∃ ordered, (∀ other, IsRanking sources other ↔ other = ordered) ∧
        kept = ordered.take limit.toNat ∧
        (kept.length : Int) = min limit sources.length ∧
        (∀ s ∈ kept, ∀ t ∈ ordered.drop limit.toNat,
          t.estimatedImpact.le s.estimatedImpact = true) ∧
        (sources.length ≤ limit → kept = ordered ∧ kept ~ sources) := by
  refine ⟨_, by rw [Query.detect, hinked]; rfl, ?_⟩
  intro recommendations sources kept
  have hnumbers : ∀ s ∈ sources, s.estimatedImpact ≠ .nan := impacts_are_numbers
  have hranking := isRanking_ranked hnumbers
  have hkept : kept = (ranked sources).take limit.toNat := by
    simp only [kept, suggestions, rank, takeLimit]
    rw [if_pos (by omega)]
  have hlength : (ranked sources).length = sources.length := hranking.perm.length_eq
  refine ⟨hnumbers, ranked sources, fun other => ⟨fun h => h.unique hnumbers, ?_⟩, hkept, ?_, ?_,
    ?_⟩
  · rintro rfl
    exact hranking
  · rw [hkept, List.length_take, hlength]
    omega
  · have hpairs := hranking.highestFirst
    rw [← List.take_append_drop limit.toNat (ranked sources), List.pairwise_append] at hpairs
    intro s hs t ht
    exact hpairs.2.2 s (hkept ▸ hs) t ht
  · intro hall
    have hwhole : kept = ranked sources := by
      rw [hkept, List.take_of_length_le (by omega)]
    exact ⟨hwhole, hwhole ▸ hranking.perm⟩

def unusualPlan : String :=
  "<P><MissingIndexGroup><MissingIndex Table='A' Impact='nan'/>" ++
    "<MissingIndex Table='B' Impact='1e999'/><MissingIndex Table='C' Impact='25'/>" ++
    "</MissingIndexGroup></P>"

theorem unusual_plan_is_ranked :
    let query := "SELECT DISTINCT Id FROM Orders"
    let recommendations := Index.recommendations (Plan.interpret .estimated unusualPlan)
    let facts := fun s : Suggestion => (s.title, s.estimatedImpact)
    isBlankString query = false ∧ (1 : Int) ≤ 3 ∧
      ∃ issues, Query.detect query = .ok issues ∧
        (unranked issues recommendations).map facts =
          [("Avoid unnecessary DISTINCT", .finite 25), ("Create index on A", .finite 25),
            ("Create index on B", .infinite false), ("Create index on C", .finite 25)] ∧
        (∀ s ∈ unranked issues recommendations, s.estimatedImpact ≠ .nan) ∧
        ∃ ordered, IsRanking (unranked issues recommendations) ordered ∧
          suggestions issues recommendations (some 3) = ordered.take 3 ∧
          ordered.map facts =
            [("Create index on B", .infinite false), ("Avoid unnecessary DISTINCT", .finite 25),
              ("Create index on A", .finite 25), ("Create index on C", .finite 25)] := by
  intro query recommendations facts
  have hinked : isBlankString query = false := by decide +kernel
  have hlimit : (1 : Int) ≤ 3 := by decide
  obtain ⟨issues, hissues, hnumbers, ordered, honly, hkept, -⟩ :=
    suggestions_are_ranked hinked .estimated unusualPlan hlimit
  have hfound : issues = Query.issuesIn (Query.normalizeText query.toList) := by
    rw [Query.detect, if_neg (by simp [hinked])] at hissues
    exact (Except.ok.inj hissues).symm
  have hsources : (unranked issues recommendations).map facts =
      [("Avoid unnecessary DISTINCT", .finite 25), ("Create index on A", .finite 25),
        ("Create index on B", .infinite false), ("Create index on C", .finite 25)] := by
    rw [hfound]
    decide +kernel
  have hranked : ordered = ranked (unranked issues recommendations) :=
    ((honly _).mp (isRanking_ranked hnumbers)).symm
  refine ⟨hinked, hlimit, issues, hissues, hsources, hnumbers, ordered, (honly ordered).mpr rfl,
    hkept, ?_⟩
  have hsorted : (ranked (unranked issues recommendations)).map facts =
      ((unranked issues recommendations).map facts).mergeSort fun a b => !a.2.lt b.2 :=
    List.map_mergeSort fun _ _ _ _ => rfl
  rw [hranked, hsorted, hsources]
  cbv

end QueryTuning.Advice
