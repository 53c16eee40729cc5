import QueryTuning.Plan.Reading
import QueryTuning.Proofs.Lists

/-!
# Missing indexes of a plan

A walk over a plan in document order sights every missing index, with the nearest group
around it. Reading the plan takes a different way: the missing indexes that are children of
groups come first, group by group, and all others count only if there are none of these. The
two agree in number exactly if all missing indexes are children of groups or none of them is.
They agree in order and in every fact if, in the first case, none of the children comes after
a sibling with others below it and, in the second, no impact would have to be inherited.
-/

set_option autoImplicit false

namespace QueryTuning

namespace Markup.Element

/-- What holds of an element if it holds of its children holds of all elements. -/
theorem tree_induction {motive : Element → Prop}
    (node : ∀ e : Element, (∀ x ∈ e.children, motive x) → motive e) (e : Element) : motive e := by
  refine @Element.rec motive (fun es => ∀ x ∈ es, motive x) ?_ ?_ ?_ e
  · intro name attributes children ih
    exact node _ ih
  · intro x hx
    cases hx
  · intro x xs hx hxs
    exact List.forall_mem_cons.mpr ⟨hx, hxs⟩

theorem preorderAll_eq (es : List Element) : preorderAll es = es.flatMap preorder := by
  induction es with
  | nil => rfl
  | cons e es ih => rw [preorderAll, ih, List.flatMap_cons]

def descendants (e : Element) : List Element := e.children.flatMap preorder

theorem preorder_eq (e : Element) : e.preorder = e :: e.descendants := by
  cases e
  rw [preorder, preorderAll_eq]
  rfl

end Markup.Element

namespace Plan

open Markup
open scoped List

inductive Place where
  | outside
  | inside (group : Element)
  | child (group : Element)

namespace Place

def below (place : Place) (e : Element) : Place :=
  if isMissingIndexGroup e then child e
  else
    match place with
    | outside => outside
    | inside group | child group => inside group

def group? : Place → Option Element
  | outside => none
  | inside group | child group => some group

def impact (place : Place) : Option Binary64 :=
  place.group?.bind fun group => attributeReal? group "Impact"

def isChild : Place → Bool
  | child _ => true
  | outside | inside _ => false

end Place

/-- A missing index and its place. -/
structure Sighting where
  place : Place
  element : Element

def Sighting.hint (s : Sighting) : Advisory := advisory s.place.impact s.element

def Sighting.isChild (s : Sighting) : Bool := s.place.isChild

def sighted (place : Place) (e : Element) : List Sighting :=
  if isMissingIndex e then [⟨place, e⟩] else []

mutual

def sightings (place : Place) : Element → List Sighting
  | .node name attributes children =>
    sighted place (.node name attributes children) ++
      sightingsAll (place.below (.node name attributes children)) children

def sightingsAll (place : Place) : List Element → List Sighting
  | [] => []
  | e :: es => sightings place e ++ sightingsAll place es

end

def sightingsBelow (place : Place) (e : Element) : List Sighting :=
  e.children.flatMap (sightings (place.below e))

def allSightings (root : Element) : List Sighting := sightings .outside root

def hints (root : Element) : List Advisory := (allSightings root).map Sighting.hint

variable {place : Place} {e x y : Element}

theorem sightings_eq (place : Place) (e : Element) :
    sightings place e = sighted place e ++ sightingsBelow place e := by
  have hall : ∀ (place : Place) (es : List Element),
      sightingsAll place es = es.flatMap (sightings place) := by
    intro place es
    induction es with
    | nil => rfl
    | cons e es ih => rw [sightingsAll, ih, List.flatMap_cons]
  cases e
  rw [sightings, hall]
  rfl

theorem sighted_eq_nil : sighted place e = [] ↔ isMissingIndex e = false := by
  unfold sighted
  split <;> simp_all

/-- A walk sights the missing indexes of the document and no others. -/
theorem map_element_sightings (place : Place) (e : Element) :
    (sightings place e).map Sighting.element = e.preorder.filter isMissingIndex := by
  induction e using Element.tree_induction generalizing place with
  | node e ih =>
    have hbelow : (sightingsBelow place e).map Sighting.element =
        e.descendants.filter isMissingIndex := by
      rw [sightingsBelow, List.map_flatMap, Element.descendants, List.filter_flatMap]
      exact List.flatMap_congr fun x hx => ih x hx _
    rw [sightings_eq, List.map_append, hbelow, Element.preorder_eq, List.filter_cons, sighted]
    split <;> rfl

theorem sightingsBelow_eq_nil :
    sightingsBelow place e = [] ↔ ∀ x ∈ e.descendants, isMissingIndex x = false := by
  simp only [sightingsBelow, Element.descendants, List.flatMap_eq_nil_iff, List.mem_flatMap,
    forall_exists_index, and_imp]
  constructor
  · intro h x child hchild hx
    have hnone := congrArg (List.map Sighting.element) (h child hchild)
    rw [map_element_sightings, List.map_nil, List.filter_eq_nil_iff] at hnone
    simpa using hnone x hx
  · intro h child hchild
    rw [← List.map_eq_nil_iff, map_element_sightings, List.filter_eq_nil_iff]
    intro x hx
    simp [h x child hchild hx]

def ownAdvisories (e : Element) : List Advisory :=
  if isMissingIndexGroup e then
    (e.children.filter isMissingIndex).map (advisory (attributeReal? e "Impact"))
  else []

theorem groupedAdvisories_eq (e : Element) :
    groupedAdvisories e = ownAdvisories e ++ e.children.flatMap groupedAdvisories := by
  have hflat : ∀ es : List Element, es.flatMap groupedAdvisories =
      ((es.flatMap Element.preorder).filter isMissingIndexGroup).flatMap fun group =>
        (group.children.filter isMissingIndex).map (advisory (attributeReal? group "Impact")) := by
    intro es
    rw [List.filter_flatMap, List.flatMap_assoc]
    rfl
  rw [hflat, groupedAdvisories, Element.preorder_eq, List.filter_cons, ownAdvisories]
  split <;> rfl

/-- The children of an element that are sighted as children of a group are those of a group. -/
theorem ownAdvisories_eq (place : Place) (e : Element) :
    ownAdvisories e =
      e.children.flatMap fun x =>
        ((sighted (place.below e) x).filter Sighting.isChild).map Sighting.hint := by
  unfold ownAdvisories
  split
  next hgroup =>
    have hplace : place.below e = .child e := by simp [Place.below, hgroup]
    rw [hplace]
    induction e.children with
    | nil => rfl
    | cons x xs ih =>
      rw [List.flatMap_cons, ← ih, List.filter_cons, sighted]
      split <;> rfl
  next hnone =>
    have hplace : (place.below e).isChild = false := by
      cases place <;> simp [Place.below, hnone, Place.isChild]
    symm
    rw [List.flatMap_eq_nil_iff]
    intro x _
    rw [sighted]
    split
    · simp [Sighting.isChild, hplace]
    · rfl

/-- Reading the groups one after the other finds the children of groups, in some order. -/
theorem groupedAdvisories_perm (place : Place) (e : Element) :
    ((sightingsBelow place e).filter Sighting.isChild).map Sighting.hint ~ groupedAdvisories e := by
  induction e using Element.tree_induction generalizing place with
  | node e ih =>
    have hchildren : e.children.flatMap (fun x =>
        ((sightings (place.below e) x).filter Sighting.isChild).map Sighting.hint) ~
          e.children.flatMap fun x =>
            ((sighted (place.below e) x).filter Sighting.isChild).map Sighting.hint ++
              groupedAdvisories x := by
      refine List.Perm.flatMap_left _ fun x hx => ?_
      rw [sightings_eq, List.filter_append, List.map_append]
      exact (ih x hx _).append_left _
    rw [groupedAdvisories_eq, ownAdvisories_eq place e, sightingsBelow, List.filter_flatMap,
      List.map_flatMap]
    exact hchildren.trans (List.flatMap_append_perm _ _ _).symm

theorem groupedAdvisories_root (root : Element) :
    ((allSightings root).filter Sighting.isChild).map Sighting.hint ~ groupedAdvisories root := by
  have hroot : (sighted .outside root).filter Sighting.isChild = [] := by
    rw [sighted]
    split <;> rfl
  rw [allSightings, sightings_eq, List.filter_append, hroot, List.nil_append]
  exact groupedAdvisories_perm _ _

theorem bareAdvisories_eq (root : Element) :
    bareAdvisories root = (allSightings root).map fun s => advisory none s.element := by
  rw [bareAdvisories, ← map_element_sightings .outside, List.map_map]
  rfl

theorem groupedAdvisories_eq_nil (root : Element) :
    groupedAdvisories root = [] ↔ ∀ s ∈ allSightings root, s.isChild = false := by
  have hperm := groupedAdvisories_root root
  constructor
  · intro hnil s hs
    rw [hnil, List.perm_nil, List.map_eq_nil_iff, List.filter_eq_nil_iff] at hperm
    simpa using hperm s hs
  · intro hnone
    have hfilter : (allSightings root).filter Sighting.isChild = [] :=
      List.filter_eq_nil_iff.mpr fun s hs => by simp [hnone s hs]
    rw [hfilter] at hperm
    exact hperm.symm.eq_nil

theorem advisories_of_none (h : ∀ s ∈ allSightings e, s.isChild = false) :
    advisories e = bareAdvisories e := by
  rw [advisories, (groupedAdvisories_eq_nil e).mpr h]

theorem advisories_of_some (h : ∃ s ∈ allSightings e, s.isChild = true) :
    advisories e = groupedAdvisories e := by
  obtain ⟨s, hs, hchild⟩ := h
  rw [advisories]
  split
  next hnil =>
    have hnone := (groupedAdvisories_eq_nil e).mp hnil s hs
    simp [hchild] at hnone
  · rfl

/-- As many advisories as missing indexes are read exactly if all of these are children of groups
or none is. -/
theorem length_advisories_eq_iff (root : Element) :
    (advisories root).length = (hints root).length ↔
      (∀ s ∈ allSightings root, s.isChild = false) ∨ ∀ s ∈ allSightings root, s.isChild = true := by
  rw [hints, List.length_map]
  by_cases hnone : ∀ s ∈ allSightings root, s.isChild = false
  · rw [advisories_of_none hnone, bareAdvisories_eq, List.length_map]
    exact ⟨fun _ => .inl hnone, fun _ => rfl⟩
  · have hsome : ∃ s ∈ allSightings root, s.isChild = true := by simpa using hnone
    have hlength := (groupedAdvisories_root root).length_eq
    rw [List.length_map] at hlength
    rw [advisories_of_some hsome, ← hlength, List.length_filter_eq_length_iff, or_iff_right hnone]

def InOrder (e : Element) : Prop :=
  e.children.Pairwise fun x y =>
    isMissingIndex y = false ∨ ∀ z ∈ x.descendants, isMissingIndex z = false

/-- What the missing indexes hint at that are the element's own children or stand below these. -/
theorem hintsBelow_eq (place : Place) (e : Element) :
    (sightingsBelow place e).map Sighting.hint =
      e.children.flatMap fun x =>
        (sighted (place.below e) x).map Sighting.hint ++
          (sightingsBelow (place.below e) x).map Sighting.hint := by
  rw [sightingsBelow, List.map_flatMap]
  refine List.flatMap_congr fun x _ => ?_
  rw [sightings_eq, List.map_append]

def Grouped (place : Place) (e : Element) : Prop :=
  ∀ s ∈ sightingsBelow place e, s.isChild = true

theorem Grouped.child (h : Grouped place e) (hx : x ∈ e.children) : Grouped (place.below e) x := by
  intro s hs
  refine h s (List.mem_flatMap.mpr ⟨x, hx, ?_⟩)
  rw [sightings_eq]
  exact List.mem_append_right _ hs

theorem Grouped.groupedAdvisories_eq (h : Grouped place e) :
    groupedAdvisories e =
      (e.children.flatMap fun x => (sighted (place.below e) x).map Sighting.hint) ++
        e.children.flatMap groupedAdvisories := by
  rw [Plan.groupedAdvisories_eq, ownAdvisories_eq place]
  congr 1
  refine List.flatMap_congr fun x hx => ?_
  rw [List.filter_eq_self.mpr]
  intro s hs
  refine h s (List.mem_flatMap.mpr ⟨x, hx, ?_⟩)
  rw [sightings_eq]
  exact List.mem_append_left _ hs

theorem Grouped.perm (h : Grouped place e) :
    (sightingsBelow place e).map Sighting.hint ~ groupedAdvisories e := by
  have hperm := groupedAdvisories_perm place e
  rwa [List.filter_eq_self.mpr h] at hperm

/-- Order among the children of an element, by the advisories that are read for them. -/
theorem Grouped.inOrder_iff (h : Grouped place e) :
    InOrder e ↔ e.children.Pairwise fun x y =>
      (sighted (place.below e) y).map Sighting.hint = [] ∨ groupedAdvisories x = [] := by
  refine List.Pairwise.iff_of_mem fun {x y} hx _ => ?_
  have hlength := (h.child hx).perm.length_eq
  rw [List.length_map] at hlength
  have hnone : groupedAdvisories x = [] ↔ sightingsBelow (place.below e) x = [] := by
    rw [← List.length_eq_zero_iff, ← hlength, List.length_eq_zero_iff]
  rw [hnone, sightingsBelow_eq_nil, List.map_eq_nil_iff, sighted_eq_nil]

theorem forall_mem_preorder {P : Element → Prop} :
    (∀ x ∈ e.preorder, P x) ↔ P e ∧ ∀ x ∈ e.children, ∀ y ∈ x.preorder, P y := by
  simp only [Element.preorder_eq e, List.forall_mem_cons, Element.descendants, List.mem_flatMap,
    forall_exists_index, and_imp]
  exact and_congr_right fun _ => ⟨fun h x hx y hy => h y x hx hy, fun h y x hx hy => h x hx y hy⟩

/-- In a plan with all siblings in order, group by group is document order. -/
theorem Grouped.hints_eq (h : Grouped place e) (horder : ∀ x ∈ e.preorder, InOrder x) :
    (sightingsBelow place e).map Sighting.hint = groupedAdvisories e := by
  induction e using Element.tree_induction generalizing place with
  | node e ih =>
    obtain ⟨hown, hchildren⟩ := forall_mem_preorder.mp horder
    rw [hintsBelow_eq, h.groupedAdvisories_eq,
      ← flatMap_append_of_pairwise (h.inOrder_iff.mp hown)]
    exact List.flatMap_congr fun x hx => by rw [ih x hx (h.child hx) (hchildren x hx)]

/-- Where no two hints are the same, document order shows that all siblings are in order. -/
theorem Grouped.inOrder (h : Grouped place e)
    (hnodup : ((sightingsBelow place e).map Sighting.hint).Nodup)
    (heq : (sightingsBelow place e).map Sighting.hint = groupedAdvisories e) :
    ∀ x ∈ e.preorder, InOrder x := by
  induction e using Element.tree_induction generalizing place with
  | node e ih =>
    rw [hintsBelow_eq] at hnodup heq
    rw [h.groupedAdvisories_eq] at heq
    obtain ⟨hsame, hpairs⟩ := pairwise_of_flatMap_append
      (fun x hx => (h.child hx).perm.length_eq) hnodup heq
    refine forall_mem_preorder.mpr ⟨h.inOrder_iff.mpr hpairs, fun x hx => ?_⟩
    have hpart : (sightingsBelow (place.below e) x).map Sighting.hint <+
        e.children.flatMap fun x =>
          (sighted (place.below e) x).map Sighting.hint ++
            (sightingsBelow (place.below e) x).map Sighting.hint := by
      obtain ⟨before, later, hsplit⟩ := List.append_of_mem hx
      rw [hsplit, List.flatMap_append, List.flatMap_cons]
      exact ((List.sublist_append_right _ _).trans (List.sublist_append_left _ _)).trans
        (List.sublist_append_right _ _)
    exact ih x hx (h.child hx) (hpart.nodup hnodup) (hsame x hx)

/-- Nothing stands in the way of a hint: either no missing index is a child of a group and none
would have to inherit an impact, or all are children of groups and stand in order. -/
def Located (root : Element) : Prop :=
  (∀ s ∈ allSightings root, s.isChild = false ∧
      ((attributeReal? s.element "Impact").isSome = true ∨ s.place.impact = none)) ∨
    (∀ s ∈ allSightings root, s.isChild = true) ∧ ∀ e ∈ root.preorder, InOrder e

theorem bare_hint_iff (s : Sighting) :
    advisory none s.element = s.hint ↔
      ((attributeReal? s.element "Impact").isSome = true ∨ s.place.impact = none) := by
  have himpact : advisory none s.element = s.hint ↔
      (attributeReal? s.element "Impact").or none =
        (attributeReal? s.element "Impact").or s.place.impact := by
    simp [Sighting.hint, advisory]
  rw [himpact]
  cases attributeReal? s.element "Impact" <;> simp [eq_comm]

theorem map_bare_eq_iff (root : Element) :
    bareAdvisories root = hints root ↔
      ∀ s ∈ allSightings root,
        (attributeReal? s.element "Impact").isSome = true ∨ s.place.impact = none := by
  rw [bareAdvisories_eq, hints, List.map_inj_left]
  exact forall₂_congr fun s _ => bare_hint_iff s

/-- If all missing indexes are children of groups, they stand below the root. -/
theorem below_root (h : ∀ s ∈ allSightings e, s.isChild = true) :
    allSightings e = sightingsBelow .outside e := by
  have hroot : sighted .outside e = [] := by
    rw [sighted_eq_nil]
    by_contra hmissing
    have hsighted : ⟨.outside, e⟩ ∈ allSightings e := by
      rw [allSightings, sightings_eq, sighted, if_pos (by simpa using hmissing)]
      exact List.mem_append_left _ (by simp)
    cases h _ hsighted
  rw [allSightings, sightings_eq, hroot, List.nil_append]

theorem advisories_of_all (h : ∀ s ∈ allSightings e, s.isChild = true) :
    advisories e = groupedAdvisories e := by
  cases hsightings : allSightings e with
  | nil =>
    have hnone : ∀ s ∈ allSightings e, s.isChild = false := by simp [hsightings]
    rw [advisories_of_none hnone, bareAdvisories_eq, hsightings,
      (groupedAdvisories_eq_nil e).mpr hnone, List.map_nil]
  | cons s rest => exact advisories_of_some ⟨s, by simp [hsightings], h s (by simp [hsightings])⟩

theorem grouped_of_all (h : ∀ s ∈ allSightings e, s.isChild = true) : Grouped .outside e :=
  fun s hs => h s (below_root h ▸ hs)

theorem advisories_of_located {root : Element} (h : Located root) :
    advisories root = hints root := by
  rcases h with hbare | ⟨hall, horder⟩
  · rw [advisories_of_none fun s hs => (hbare s hs).1]
    exact (map_bare_eq_iff root).mpr fun s hs => (hbare s hs).2
  · rw [advisories_of_all hall, hints, below_root hall]
    exact ((grouped_of_all hall).hints_eq horder).symm

theorem located_of_eq {root : Element} (hnodup : (hints root).Nodup)
    (heq : advisories root = hints root) : Located root := by
  rcases (length_advisories_eq_iff root).mp (congrArg List.length heq) with hnone | hall
  · rw [advisories_of_none hnone] at heq
    exact .inl fun s hs => ⟨hnone s hs, (map_bare_eq_iff root).mp heq s hs⟩
  · rw [hints, below_root hall] at hnodup
    rw [advisories_of_all hall, hints, below_root hall] at heq
    exact .inr ⟨hall, (grouped_of_all hall).inOrder hnodup heq.symm⟩

theorem interpret_eq {document : String} {root : Element} (mode : Mode)
    (hinked : isBlankString document = false)
    (hroot : parse? (withoutDeclaration document.toList) = some root) :
    interpret mode document = ofElement mode document root := by
  rw [interpret, read, if_neg (by simp [hinked]), hroot]

/-- From a document that is well formed as many advisories are read as it has missing indexes
exactly if these are all children of groups or none is. If the document is `Located`, the
advisories are what its missing indexes hint at, in document order; if no two hints are the same,
only then. -/
theorem advisories_of_document {document : String} {root : Element} (mode : Mode)
    (hinked : isBlankString document = false)
    (hroot : parse? (withoutDeclaration document.toList) = some root) :
    ((interpret mode document).advisories.length = (root.preorder.filter isMissingIndex).length ↔
      (∀ s ∈ allSightings root, s.isChild = false) ∨
        ∀ s ∈ allSightings root, s.isChild = true) ∧
      (Located root → (interpret mode document).advisories = hints root) ∧
      ((hints root).Nodup →
        ((interpret mode document).advisories = hints root ↔ Located root)) := by
  have hlength : (root.preorder.filter isMissingIndex).length = (hints root).length := by
    rw [← map_element_sightings .outside, List.length_map, hints, List.length_map, allSightings]
  rw [interpret_eq mode hinked hroot, hlength]
  exact ⟨length_advisories_eq_iff root, advisories_of_located,
    fun hnodup => ⟨located_of_eq hnodup, advisories_of_located⟩⟩

instance : DecidablePred InOrder := fun e =>
  inferInstanceAs (Decidable (e.children.Pairwise fun x y =>
    isMissingIndex y = false ∨ ∀ z ∈ x.descendants, isMissingIndex z = false))

instance : DecidablePred Located := fun root =>
  inferInstanceAs (Decidable ((∀ s ∈ allSightings root, s.isChild = false ∧
      ((attributeReal? s.element "Impact").isSome = true ∨ s.place.impact = none)) ∨
    (∀ s ∈ allSightings root, s.isChild = true) ∧ ∀ e ∈ root.preorder, InOrder e))

def groupedPlan : String :=
  "<P><MissingIndexGroup Impact='9'><MissingIndex Table='A'/><MissingIndex Table='B'/>" ++
    "</MissingIndexGroup></P>"

theorem grouped_plan_is_read :
    isBlankString groupedPlan = false ∧
      ∃ root, parse? (withoutDeclaration groupedPlan.toList) = some root ∧ Located root ∧
        (hints root).map Advisory.table = ["A", "B"] ∧
        (interpret .estimated groupedPlan).advisories = hints root := by
  have hinked : isBlankString groupedPlan = false := by decide +kernel
  have hparsed : (parse? (withoutDeclaration groupedPlan.toList)).map (fun root =>
      (decide (Located root), (hints root).map Advisory.table)) = some (true, ["A", "B"]) := by
    decide +kernel
  obtain ⟨root, hroot, hfacts⟩ := Option.map_eq_some_iff.mp hparsed
  simp only [Prod.mk.injEq, decide_eq_true_eq] at hfacts
  exact ⟨hinked, root, hroot, hfacts.1, hfacts.2,
    (advisories_of_document .estimated hinked hroot).2.1 hfacts.1⟩

/-- A missing index beside a group is lost, one deeper inside a group has no impact, and one in
a group between the children of another comes late. -/
theorem hints_get_lost :
    let beside := "<P><MissingIndexGroup><MissingIndex Table='A'/></MissingIndexGroup>" ++
      "<MissingIndex Table='B'/></P>"
    let deeper := "<P><MissingIndexGroup Impact='9'><X><MissingIndex/></X></MissingIndexGroup></P>"
    let between := "<P><MissingIndexGroup><MissingIndexGroup><MissingIndex Table='A'/>" ++
      "</MissingIndexGroup><MissingIndex Table='B'/></MissingIndexGroup></P>"
    (∃ root, parse? (withoutDeclaration beside.toList) = some root ∧
        (hints root).map Advisory.table = ["A", "B"] ∧
        (interpret .estimated beside).advisories.map Advisory.table = ["A"]) ∧
      (∃ root, parse? (withoutDeclaration deeper.toList) = some root ∧
        (hints root).map (fun a => a.impact.isSome) = [true] ∧
        (interpret .estimated deeper).advisories.map (fun a => a.impact.isSome) = [false]) ∧
      ∃ root, parse? (withoutDeclaration between.toList) = some root ∧
        (hints root).map Advisory.table = ["A", "B"] ∧
        (interpret .estimated between).advisories.map Advisory.table = ["B", "A"] := by
  have hread : ∀ {α : Type} {document : String} (f : Advisory → α) {claimed found : List α},
      isBlankString document = false →
        (parse? (withoutDeclaration document.toList)).map (fun root =>
          ((hints root).map f, (advisories root).map f)) = some (claimed, found) →
        ∃ root, parse? (withoutDeclaration document.toList) = some root ∧
          (hints root).map f = claimed ∧
          (interpret .estimated document).advisories.map f = found := by
    intro α document f claimed found hinked hparsed
    obtain ⟨root, hroot, hfacts⟩ := Option.map_eq_some_iff.mp hparsed
    refine ⟨root, hroot, (Prod.mk.inj hfacts).1, ?_⟩
    rw [interpret_eq .estimated hinked hroot]
    exact (Prod.mk.inj hfacts).2
  intro beside deeper between
  exact ⟨hread Advisory.table (by decide +kernel) (by decide +kernel),
    hread (fun a => a.impact.isSome) (by decide +kernel) (by decide +kernel),
    hread Advisory.table (by decide +kernel) (by decide +kernel)⟩

end Plan

end QueryTuning
