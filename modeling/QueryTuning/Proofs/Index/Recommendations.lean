import Mathlib.Data.List.Forall2
import QueryTuning.Proofs.Index.CreateStatement
import QueryTuning.Proofs.Index.Impact

/-!
# From hints to recommendations

Every missing index that a group of a plan holds gives one recommendation. Its columns are all
those that the plan names for a role, in document order, wherever the groups of columns stand
among the children, so groups of different usage may change places. Its impact is positive.
-/

set_option autoImplicit false

namespace QueryTuning.Index

open Markup Plan

section

variable {α β κ : Type}

theorem pairwise_zipIdx (xs : List α) : xs.zipIdx.Pairwise fun a b => a.2 < b.2 := by
  rw [List.pairwise_iff_getElem]
  intro i j hi hj hij
  simpa using hij

def placedIn (f : α → Option β) (xs : List α) : List (Nat × β) :=
  xs.zipIdx.filterMap fun entry => (f entry.1).map (entry.2, ·)

theorem mem_placedIn {f : α → Option β} {xs : List α} {i : Nat} {b : β} :
    (i, b) ∈ placedIn f xs ↔ ∃ a, xs[i]? = some a ∧ f a = some b := by
  simp only [placedIn, List.mem_filterMap, Prod.exists, Option.map_eq_some_iff, Prod.mk.injEq,
    List.mem_zipIdx_iff_getElem?]
  constructor
  · rintro ⟨a, j, ha, c, hc, rfl, rfl⟩
    exact ⟨a, ha, hc⟩
  · rintro ⟨a, ha, hb⟩
    exact ⟨a, i, ha, b, hb, rfl, rfl⟩

theorem map_snd_placedIn (f : α → Option β) (xs : List α) :
    (placedIn f xs).map Prod.snd = xs.filterMap f := by
  have hall : xs.filterMap f = xs.zipIdx.filterMap fun entry => f entry.1 := by
    conv_lhs => rw [← List.zipIdx_map_fst 0 xs]
    rw [List.filterMap_map]
    rfl
  rw [hall, placedIn, List.map_filterMap]
  simp [Function.comp_def]

theorem pairwise_placedIn (f : α → Option β) (xs : List α) :
    (placedIn f xs).Pairwise fun a b => a.1 < b.1 := by
  refine (pairwise_zipIdx xs).filterMap _ fun a a' hlt b hb b' hb' => ?_
  obtain ⟨_, -, rfl⟩ := Option.map_eq_some_iff.mp hb
  obtain ⟨_, -, rfl⟩ := Option.map_eq_some_iff.mp hb'
  exact hlt

def placedBelow (f : α → List (κ × β)) (xs : List α) : List ((Nat × κ) × β) :=
  xs.zipIdx.flatMap fun entry => (f entry.1).map fun p => ((entry.2, p.1), p.2)

theorem mem_placedBelow {f : α → List (κ × β)} {xs : List α} {i : Nat} {k : κ} {b : β} :
    ((i, k), b) ∈ placedBelow f xs ↔ ∃ a, xs[i]? = some a ∧ (k, b) ∈ f a := by
  simp only [placedBelow, List.mem_flatMap, List.mem_map, Prod.exists, Prod.mk.injEq,
    List.mem_zipIdx_iff_getElem?]
  constructor
  · rintro ⟨a, j, ha, l, c, hc, ⟨rfl, rfl⟩, rfl⟩
    exact ⟨a, ha, hc⟩
  · rintro ⟨a, ha, hb⟩
    exact ⟨a, i, ha, k, b, hb, ⟨rfl, rfl⟩, rfl⟩

theorem map_snd_placedBelow (f : α → List (κ × β)) (xs : List α) :
    (placedBelow f xs).map Prod.snd = xs.flatMap fun a => (f a).map Prod.snd := by
  have hall : (xs.flatMap fun a => (f a).map Prod.snd) =
      xs.zipIdx.flatMap fun entry => (f entry.1).map Prod.snd := by
    conv_lhs => rw [← List.zipIdx_map_fst 0 xs]
    rw [List.flatMap_map]
  rw [hall, placedBelow, List.map_flatMap]
  simp [Function.comp_def]

theorem pairwise_placedBelow {f : α → List (κ × β)} {R : κ → κ → Prop}
    (hf : ∀ a, (f a).Pairwise fun p q => R p.1 q.1) (xs : List α) :
    (placedBelow f xs).Pairwise fun p q =>
      p.1.1 < q.1.1 ∨ p.1.1 = q.1.1 ∧ R p.1.2 q.1.2 := by
  rw [placedBelow, List.pairwise_flatMap]
  constructor
  · intro entry _
    rw [List.pairwise_map]
    exact (hf entry.1).imp fun h => .inr ⟨rfl, h⟩
  · refine (pairwise_zipIdx xs).imp fun hlt p hp q hq => ?_
    obtain ⟨_, -, rfl⟩ := List.mem_map.mp hp
    obtain ⟨_, -, rfl⟩ := List.mem_map.mp hq
    exact .inl hlt

end

def roleWord : Usage → String
  | .equality => "EQUALITY"
  | .inequality => "INEQUALITY"
  | .included => "INCLUDE"

def HasRole (group : Element) (usage : Usage) : Prop :=
  group.localName = "ColumnGroup" ∧
    ∃ text, group.attribute? "Usage" = some text ∧ upperCase text = roleWord usage

def IsColumn (column : Element) (name : String) : Prop :=
  column.localName = "Column" ∧ name ≠ "" ∧
    ∃ text, column.attribute? "Name" = some text ∧ name = String.ofList (unbracketed text.toList)

def HasColumn (missing : Element) (usage : Usage) (place : Nat × Nat) (name : String) : Prop :=
  ∃ group column, missing.children[place.1]? = some group ∧ HasRole group usage ∧
    group.children[place.2]? = some column ∧ IsColumn column name

def ListsColumns (missing : Element) (usage : Usage) (names : List String) : Prop :=
  ∃ places : List (Nat × Nat),
    places.Pairwise (fun p q => p.1 < q.1 ∨ p.1 = q.1 ∧ p.2 < q.2) ∧
    List.Forall₂ (HasColumn missing usage) places names ∧
    ∀ place name, HasColumn missing usage place name → place ∈ places

variable {group missing column : Element} {usage : Usage} {name : String}

theorem usage?_eq_some : usage? group = some usage ↔
    ∃ text, group.attribute? "Usage" = some text ∧ upperCase text = roleWord usage := by
  have hread : ∀ text, Usage.ofText? text = some usage ↔
      String.ofList (Text.upper text) = roleWord usage := by
    intro text
    simp only [Usage.ofText?]
    generalize String.ofList (Text.upper text) = word
    cases usage <;> simp only [roleWord] <;> split <;> (try split) <;> (try split) <;> simp_all
  rw [usage?, hread]
  cases group.attribute? "Usage" with
  | none => cases usage <;> simp [Text.upper, roleWord]
  | some text => simp [upperCase]

theorem hasRole_iff :
    (group.localName == "ColumnGroup" && usage? group == some usage) = true ↔
      HasRole group usage := by
  rw [Bool.and_eq_true, beq_iff_eq, beq_iff_eq, usage?_eq_some, HasRole]

def columnName? (column : Element) : Option String :=
  if column.localName == "Column" && attributeName column "Name" != "" then
    some (attributeName column "Name")
  else none

theorem columnName?_eq_some : columnName? column = some name ↔ IsColumn column name := by
  unfold columnName? IsColumn attributeName
  cases column.attribute? "Name" with
  | none => simp
  | some text =>
    simp only [Option.some.injEq, Option.ite_none_right_eq_some, Bool.and_eq_true, beq_iff_eq,
      bne_iff_ne, exists_eq_left']
    constructor
    · rintro ⟨⟨hcolumn, hname⟩, rfl⟩
      exact ⟨hcolumn, hname, rfl⟩
    · rintro ⟨hcolumn, hname, rfl⟩
      exact ⟨⟨hcolumn, hname⟩, rfl⟩

theorem columnNames_eq (group : Element) :
    columnNames group = group.children.filterMap columnName? := by
  rw [columnNames]
  induction group.children with
  | nil => rfl
  | cons e es ih =>
    rw [List.filterMap_cons, ← ih, columnName?]
    by_cases hcolumn : e.localName == "Column" <;>
      by_cases hname : attributeName e "Name" = "" <;> simp [hcolumn, hname]

def placedColumns (usage : Usage) (missing : Element) : List ((Nat × Nat) × String) :=
  placedBelow (fun group =>
    if group.localName == "ColumnGroup" && usage? group == some usage then
      placedIn columnName? group.children
    else []) missing.children

theorem map_snd_placedColumns (usage : Usage) (missing : Element) :
    (placedColumns usage missing).map Prod.snd = columnsFor usage missing := by
  rw [placedColumns, map_snd_placedBelow, columnsFor]
  induction missing.children with
  | nil => rfl
  | cons e es ih =>
    rw [List.flatMap_cons, ih, List.filter_cons]
    split
    · rw [List.flatMap_cons, map_snd_placedIn, columnNames_eq]
    · rfl

theorem mem_placedColumns {place : Nat × Nat} :
    (place, name) ∈ placedColumns usage missing ↔ HasColumn missing usage place name := by
  obtain ⟨i, j⟩ := place
  rw [placedColumns, mem_placedBelow]
  constructor
  · rintro ⟨group, hgroup, hmem⟩
    split at hmem
    next hrole =>
      obtain ⟨column, hcolumn, hname⟩ := mem_placedIn.mp hmem
      exact ⟨group, column, hgroup, hasRole_iff.mp hrole, hcolumn, columnName?_eq_some.mp hname⟩
    · cases hmem
  · rintro ⟨group, column, hgroup, hrole, hcolumn, hname⟩
    refine ⟨group, hgroup, ?_⟩
    rw [if_pos (hasRole_iff.mpr hrole)]
    exact mem_placedIn.mpr ⟨column, hcolumn, columnName?_eq_some.mpr hname⟩

theorem listsColumns_columnsFor (usage : Usage) (missing : Element) :
    ListsColumns missing usage (columnsFor usage missing) := by
  refine ⟨(placedColumns usage missing).map Prod.fst, ?_, ?_, ?_⟩
  · rw [List.pairwise_map]
    refine pairwise_placedBelow (fun group => ?_) missing.children
    split
    · exact pairwise_placedIn columnName? group.children
    · exact .nil
  · rw [← map_snd_placedColumns, List.forall₂_map_left_iff, List.forall₂_map_right_iff,
      List.forall₂_same]
    exact fun p hp => mem_placedColumns.mp hp
  · intro place name h
    exact List.mem_map.mpr ⟨(place, name), mem_placedColumns.mpr h, rfl⟩

def usageText (group : Element) : String := upperCase ((group.attribute? "Usage").getD "")

theorem columnsFor_swap {g g' : Element} (h : usageText g ≠ usageText g') (usage : Usage)
    (name : ExpandedName) (attributes : List Attribute) (before after : List Element) :
    columnsFor usage (.node name attributes (before ++ g' :: g :: after)) =
      columnsFor usage (.node name attributes (before ++ g :: g' :: after)) := by
  have hone : ¬ (HasRole g usage ∧ HasRole g' usage) := by
    rintro ⟨⟨-, t, ht, hword⟩, -, t', ht', hword'⟩
    apply h
    rw [usageText, usageText, ht, ht', Option.getD_some, Option.getD_some, hword, hword']
  simp only [← hasRole_iff, ← Bool.and_eq_true, Bool.not_eq_true] at hone
  simp only [columnsFor, Element.children, List.filter_append, List.flatMap_append,
    List.append_cancel_left_eq]
  rw [List.filter_cons, List.filter_cons, List.filter_cons, List.filter_cons]
  split <;> split <;> simp_all

def groupedHints (root : Element) : List (Element × Element) :=
  (root.preorder.filter isMissingIndexGroup).flatMap fun group =>
    (group.children.filter isMissingIndex).map (group, ·)

def hintAdvisory (hint : Element × Element) : Advisory :=
  advisory (attributeReal? hint.1 "Impact") hint.2

def hintRecommendation (hint : Element × Element) : Recommendation := recommend (hintAdvisory hint)

theorem groupedAdvisories_eq_map (root : Element) :
    groupedAdvisories root = (groupedHints root).map hintAdvisory := by
  rw [groupedAdvisories, groupedHints, List.map_flatMap]
  simp [Function.comp_def, hintAdvisory]

theorem mem_groupedHints {root : Element} : (group, missing) ∈ groupedHints root ↔
    group ∈ root.preorder ∧ group.localName = "MissingIndexGroup" ∧
      missing ∈ group.children ∧ missing.localName = "MissingIndex" := by
  simp [groupedHints, isMissingIndexGroup, isMissingIndex, and_assoc]

def StatesImpact (group missing : Element) (x : Binary64) : Prop :=
  attributeReal? missing "Impact" = some x ∨
    attributeReal? missing "Impact" = none ∧ attributeReal? group "Impact" = some x

theorem statesImpact_iff {x : Binary64} :
    StatesImpact group missing x ↔ (hintAdvisory (group, missing)).impact = some x := by
  rw [StatesImpact, hintAdvisory, advisory, Option.or_eq_some_iff]

structure Recommends (group missing : Element) (r : Recommendation) : Prop where
  keys : ∃ equality inequality, ListsColumns missing .equality equality ∧
    ListsColumns missing .inequality inequality ∧
    r.keyColumns = (equality ++ inequality).map fun name => ⟨name, .ascending⟩
  included : ListsColumns missing .included r.includedColumns
  impact :
    (∃ x, StatesImpact group missing x ∧ Binary64.zero.lt x = true ∧ r.estimatedImpact = x) ∨
      (∀ x, StatesImpact group missing x → Binary64.zero.lt x = false) ∧
        r.estimatedImpact = heuristicImpact r.keyColumns.length r.includedColumns.length
  positive : Binary64.zero.lt r.estimatedImpact = true
  isNumber : r.estimatedImpact ≠ .nan
  statement : r.createStatement = "" ↔ r.keyColumns = []

theorem createStatement_eq_empty_iff (a : Advisory) :
    (recommend a).createStatement = "" ↔ (recommend a).keyColumns = [] := by
  simp only [recommend, Recommendation.render, List.isEmpty_iff]
  split
  next hnone => simp [hnone]
  next hsome => simpa using hsome

theorem recommends_hintRecommendation (group missing : Element) :
    Recommends group missing (hintRecommendation (group, missing)) := by
  have hpositive := impactOf_pos (hintAdvisory (group, missing))
  refine ⟨⟨_, _, listsColumns_columnsFor .equality missing,
    listsColumns_columnsFor .inequality missing, rfl⟩, listsColumns_columnsFor .included missing,
    ?_, hpositive, Binary64.ne_nan_of_lt hpositive, createStatement_eq_empty_iff _⟩
  simp only [statesImpact_iff]
  rcases impactOf_cases (hintAdvisory (group, missing)) with hstated | ⟨hnone, hestimate⟩
  · exact .inl hstated
  · refine .inr ⟨hnone, hestimate.trans ?_⟩
    simp [estimateFor, hintRecommendation, recommend]

/-- Each missing index in a group of a plan gives one recommendation, in the order of the
advisories. It has all the columns that the plan names, in document order, and a positive impact;
it stays the same if neighbouring groups of columns with different usage change places. -/
theorem hints_are_recommended {root group missing : Element} (hgroup : group ∈ root.preorder)
    (hgroupName : group.localName = "MissingIndexGroup") (hmissing : missing ∈ group.children)
    (hmissingName : missing.localName = "MissingIndex") (mode : Mode) (document : String) :
    (group, missing) ∈ groupedHints root ∧
      (ofElement mode document root).advisories = (groupedHints root).map hintAdvisory ∧
      recommendations (ofElement mode document root) =
        (groupedHints root).map hintRecommendation ∧
      Recommends group missing (hintRecommendation (group, missing)) ∧
      (∀ name attributes before g g' after group',
        missing = .node name attributes (before ++ g :: g' :: after) →
          usageText g ≠ usageText g' → group'.attribute? "Impact" = group.attribute? "Impact" →
            hintRecommendation (group', .node name attributes (before ++ g' :: g :: after)) =
              hintRecommendation (group, missing)) ∧
      ∀ {keys keys' included included' : Nat}, keys ≤ keys' → included ≤ included' →
        (Binary64.finite 25).le (heuristicImpact keys included) = true ∧
          (heuristicImpact keys included).le (.finite 65) = true ∧
          (heuristicImpact keys included).le (heuristicImpact keys' included') = true := by
  have hmem : (group, missing) ∈ groupedHints root :=
    mem_groupedHints.mpr ⟨hgroup, hgroupName, hmissing, hmissingName⟩
  have hadvisories : (ofElement mode document root).advisories =
      (groupedHints root).map hintAdvisory := by
    rw [ofElement, advisories, groupedAdvisories_eq_map]
    split
    next hnone => simp [List.map_eq_nil_iff.mp hnone] at hmem
    · rfl
  refine ⟨hmem, hadvisories, ?_, recommends_hintRecommendation group missing, ?_, ?_⟩
  · rw [recommendations, hadvisories, List.map_map]
    rfl
  · rintro name attributes before g g' after group' rfl husage himpact
    have hswap := fun usage => columnsFor_swap husage usage name attributes before after
    rw [hintRecommendation, hintRecommendation, hintAdvisory, hintAdvisory, attributeReal?,
      attributeReal?, himpact, advisory, advisory, hswap, hswap, hswap]
    rfl
  · intro keys keys' included included' hkeys hincluded
    obtain ⟨hlow, hhigh⟩ := heuristicImpact_bounds keys included
    exact ⟨hlow, hhigh, heuristicImpact_mono hkeys hincluded⟩

def mixedGroup (usage : String) (names : List String) : Element :=
  element "ColumnGroup" [("Usage", usage)]
    (names.map fun name => element "Column" [("Name", name)] [])

def mixedIndex : Element :=
  element "MissingIndex" [("Table", "[T]"), ("Impact", "high")]
    [mixedGroup "inequality" ["[B]", "[B]"], mixedGroup "UNIQUE" ["[U]"],
      mixedGroup "EQUALITY" ["[C]", "[]", " [A] "], mixedGroup "Include" ["D"],
      mixedGroup "EQUALITY" ["B"], element "Column" [("Name", "E")] []]

def mixedHints : Element :=
  element "MissingIndexGroup" [("Impact", "12.5")] [mixedIndex]

theorem mixed_hints_are_recommended :
    let r := hintRecommendation (mixedHints, mixedIndex)
    mixedHints ∈ (element "Plan" [] [mixedHints]).preorder ∧
      recommendations (ofElement .estimated "" (element "Plan" [] [mixedHints])) = [r] ∧
      Recommends mixedHints mixedIndex r ∧
      r.keyColumns.map KeyColumn.name = ["C", "A", "B", "B", "B"] ∧ r.includedColumns = ["D"] ∧
      r.estimatedImpact = .finite (25 / 2) ∧ r.createStatement ≠ "" := by
  intro r
  have hgroup : mixedHints ∈ (element "Plan" [] [mixedHints]).preorder := by
    simp [element, Element.preorder, Element.preorderAll, mixedHints]
  have hmissing : mixedIndex ∈ mixedHints.children := by
    simp [mixedHints, element, Element.children]
  obtain ⟨-, -, hall, hrecommends, -⟩ :=
    hints_are_recommended hgroup rfl hmissing rfl .estimated ""
  have hkeys : r.keyColumns.map KeyColumn.name = ["C", "A", "B", "B", "B"] := by decide +kernel
  have hstatement : r.createStatement ≠ "" := by
    rw [Ne, hrecommends.statement]
    intro hnone
    simp [r, hnone] at hkeys
  exact ⟨hgroup, hall.trans rfl, hrecommends, hkeys, by decide +kernel, by decide +kernel,
    hstatement⟩

end QueryTuning.Index
