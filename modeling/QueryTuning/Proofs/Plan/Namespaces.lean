import QueryTuning.Proofs.Plan.MissingIndexes

/-!
# Namespaces of a plan

Elements of a plan are known by their local names and attributes have no namespace, so a plan
reads like the same plan without any namespaces. Its cost is stated by the first element that
states one; elements are ordered by their paths from the root, an element before those below it.
-/

set_option autoImplicit false

namespace QueryTuning

namespace Markup.Element

mutual

def withoutSpaces : Element → Element
  | node name attributes children =>
    node ⟨none, name.localName⟩ attributes (allWithoutSpaces children)

def allWithoutSpaces : List Element → List Element
  | [] => []
  | e :: es => withoutSpaces e :: allWithoutSpaces es

end

def SameApartFromSpaces (e f : Element) : Prop := e.withoutSpaces = f.withoutSpaces

mutual

def decideEq : (e f : Element) → Decidable (e = f)
  | node name attributes children, node name' attributes' children' =>
    if hname : name = name' then
      if hattributes : attributes = attributes' then
        match decideAllEq children children' with
        | isTrue hchildren => isTrue (by rw [hname, hattributes, hchildren])
        | isFalse hchildren => isFalse (by simp [hchildren])
      else isFalse (by simp [hattributes])
    else isFalse (by simp [hname])

def decideAllEq : (es fs : List Element) → Decidable (es = fs)
  | [], [] => isTrue rfl
  | [], _ :: _ => isFalse (by simp)
  | _ :: _, [] => isFalse (by simp)
  | e :: es, f :: fs =>
    match decideEq e f, decideAllEq es fs with
    | isTrue he, isTrue hes => isTrue (by rw [he, hes])
    | isFalse he, _ => isFalse (by simp [he])
    | _, isFalse hes => isFalse (by simp [hes])

end

instance : DecidableEq Element := decideEq

instance (e f : Element) : Decidable (SameApartFromSpaces e f) :=
  inferInstanceAs (Decidable (e.withoutSpaces = f.withoutSpaces))

theorem allWithoutSpaces_eq (es : List Element) : allWithoutSpaces es = es.map withoutSpaces := by
  induction es with
  | nil => rfl
  | cons e es ih => rw [allWithoutSpaces, ih, List.map_cons]

@[simp] theorem localName_withoutSpaces (e : Element) :
    e.withoutSpaces.localName = e.localName := by
  cases e
  rfl

@[simp] theorem attribute?_withoutSpaces (e : Element) (key : String) :
    e.withoutSpaces.attribute? key = e.attribute? key := by
  cases e
  rfl

@[simp] theorem children_withoutSpaces (e : Element) :
    e.withoutSpaces.children = e.children.map withoutSpaces := by
  cases e
  exact allWithoutSpaces_eq _

@[simp] theorem preorder_withoutSpaces (e : Element) :
    e.withoutSpaces.preorder = e.preorder.map withoutSpaces := by
  induction e using tree_induction with
  | node e ih =>
    rw [preorder_eq, preorder_eq e, List.map_cons, descendants, descendants, List.map_flatMap,
      children_withoutSpaces, List.flatMap_map]
    congr 1
    exact List.flatMap_congr ih

def elementAt? : Element → List Nat → Option Element
  | e, [] => some e
  | e, i :: path => e.children[i]?.bind fun child => child.elementAt? path

theorem mem_preorder_of_elementAt? {e y : Element} {path : List Nat}
    (h : e.elementAt? path = some y) : y ∈ e.preorder := by
  induction path generalizing e with
  | nil =>
    obtain rfl : e = y := Option.some.inj h
    rw [preorder_eq]
    exact List.mem_cons_self
  | cons i path ih =>
    obtain ⟨child, hchild, hbelow⟩ := Option.bind_eq_some_iff.mp h
    rw [preorder_eq, descendants]
    exact List.mem_cons_of_mem _
      (List.mem_flatMap.mpr ⟨child, List.mem_of_getElem? hchild, ih hbelow⟩)

/-- What a walk in document order meets first is at the least path. -/
theorem findSome?_preorder {β : Type} {f : Element → Option β} {e : Element} {x : β}
    (h : e.preorder.findSome? f = some x) :
    ∃ path y, e.elementAt? path = some y ∧ f y = some x ∧
      ∀ earlier < path, ∀ z, e.elementAt? earlier = some z → f z = none := by
  induction e using tree_induction with
  | node e ih =>
    rw [preorder_eq, List.findSome?_cons] at h
    cases hown : f e with
    | some y =>
      rw [hown] at h
      exact ⟨[], e, rfl, hown.trans h, fun earlier hless => absurd hless (List.not_lt_nil _)⟩
    | none =>
      rw [hown, descendants, Pattern.findSome?_flatMap] at h
      obtain ⟨before, child, later, hchildren, hfound, hnone⟩ := List.findSome?_eq_some_iff.mp h
      have hchild : e.children[before.length]? = some child := by simp [hchildren]
      obtain ⟨path, y, hy, hx, hfirst⟩ := ih child (List.mem_of_getElem? hchild) hfound
      refine ⟨before.length :: path, y, ?_, hx, ?_⟩
      · rw [elementAt?, hchild, Option.bind_some, hy]
      · intro earlier hless z hz
        cases earlier with
        | nil =>
          obtain rfl : e = z := Option.some.inj hz
          exact hown
        | cons i earlier =>
          obtain ⟨sibling, hsibling, hbelow⟩ := Option.bind_eq_some_iff.mp hz
          -- An earlier path leads below an earlier child, or to an earlier place below this one.
          rcases List.cons_lt_cons_iff.mp hless with hi | ⟨hi, hbefore⟩
          · have hmem : sibling ∈ before := by
              rw [hchildren, List.getElem?_append_left hi] at hsibling
              exact List.mem_of_getElem? hsibling
            exact List.findSome?_eq_none_iff.mp (hnone sibling hmem) z
              (mem_preorder_of_elementAt? hbelow)
          · rw [hi, hchild] at hsibling
            obtain rfl : child = sibling := Option.some.inj hsibling
            exact hfirst earlier hbefore z hbelow

end Markup.Element

namespace Plan

open Markup Element

section

variable (e : Element) (key : String)

@[simp] theorem attributeReal?_withoutSpaces :
    attributeReal? e.withoutSpaces key = attributeReal? e key := by
  rw [attributeReal?, attributeReal?, attribute?_withoutSpaces]

@[simp] theorem attributeName_withoutSpaces :
    attributeName e.withoutSpaces key = attributeName e key := by
  rw [attributeName, attributeName, attribute?_withoutSpaces]

@[simp] theorem usage?_withoutSpaces : usage? e.withoutSpaces = usage? e := by
  rw [usage?, usage?, attribute?_withoutSpaces]

@[simp] theorem columnNames_withoutSpaces : columnNames e.withoutSpaces = columnNames e := by
  simp [columnNames, List.filter_map, Function.comp_def]

@[simp] theorem columnsFor_withoutSpaces (usage : Usage) :
    columnsFor usage e.withoutSpaces = columnsFor usage e := by
  simp [columnsFor, List.filter_map, List.flatMap_map, Function.comp_def]

@[simp] theorem advisory_withoutSpaces (groupImpact : Option Binary64) :
    advisory groupImpact e.withoutSpaces = advisory groupImpact e := by
  simp [advisory]

@[simp] theorem isMissingIndex_withoutSpaces :
    isMissingIndex e.withoutSpaces = isMissingIndex e := by
  rw [isMissingIndex, isMissingIndex, localName_withoutSpaces]

@[simp] theorem isMissingIndexGroup_withoutSpaces :
    isMissingIndexGroup e.withoutSpaces = isMissingIndexGroup e := by
  rw [isMissingIndexGroup, isMissingIndexGroup, localName_withoutSpaces]

end

variable (root : Element)

theorem groupedAdvisories_withoutSpaces :
    groupedAdvisories root.withoutSpaces = groupedAdvisories root := by
  simp [groupedAdvisories, List.filter_map, List.flatMap_map, Function.comp_def]

theorem bareAdvisories_withoutSpaces :
    bareAdvisories root.withoutSpaces = bareAdvisories root := by
  simp [bareAdvisories, List.filter_map, Function.comp_def]

theorem advisories_withoutSpaces : advisories root.withoutSpaces = advisories root := by
  rw [advisories, advisories, groupedAdvisories_withoutSpaces, bareAdvisories_withoutSpaces]

theorem estimatedCost_withoutSpaces : estimatedCost root.withoutSpaces = estimatedCost root := by
  simp [estimatedCost, List.findSome?_map, Function.comp_def]

def statedCost? (e : Element) : Option Binary64 := attributeReal? e "EstimatedTotalSubtreeCost"

def FirstCost (root : Element) (cost : Binary64) : Prop :=
  (∃ path e, root.elementAt? path = some e ∧ statedCost? e = some cost ∧
      ∀ earlier < path, ∀ y, root.elementAt? earlier = some y → statedCost? y = none) ∨
    (∀ path y, root.elementAt? path = some y → statedCost? y = none) ∧ cost = .zero

theorem firstCost_estimatedCost : FirstCost root (estimatedCost root) := by
  have hcost : estimatedCost root = (root.preorder.findSome? statedCost?).getD .zero := rfl
  rw [hcost]
  cases hfound : root.preorder.findSome? statedCost? with
  | some cost => exact .inl (findSome?_preorder hfound)
  | none =>
    refine .inr ⟨fun path y hy => ?_, rfl⟩
    exact List.findSome?_eq_none_iff.mp hfound y (mem_preorder_of_elementAt? hy)

structure HasTree (document : String) (root : Element) : Prop where
  inked : isBlankString document = false
  parsed : parse? (withoutDeclaration document.toList) = some root

variable {root} {root' : Element}

/-- Plans that differ in the namespaces of their elements only tell of the same missing indexes
and of the same cost, which is the one stated first in document order. -/
theorem namespaces_do_not_matter (h : SameApartFromSpaces root root') :
    advisories root' = advisories root ∧ estimatedCost root' = estimatedCost root ∧
      FirstCost root (estimatedCost root) ∧
      ∀ mode document document', HasTree document root → HasTree document' root' →
        (interpret mode document').advisories = (interpret mode document).advisories ∧
          (interpret mode document').estimatedCost = (interpret mode document).estimatedCost ∧
          FirstCost root (interpret mode document).estimatedCost := by
  have hadvisories : advisories root' = advisories root := by
    rw [← advisories_withoutSpaces, ← h, advisories_withoutSpaces]
  have hcost : estimatedCost root' = estimatedCost root := by
    rw [← estimatedCost_withoutSpaces, ← h, estimatedCost_withoutSpaces]
  refine ⟨hadvisories, hcost, firstCost_estimatedCost root, ?_⟩
  intro mode document document' hdocument hdocument'
  rw [interpret_eq mode hdocument.inked hdocument.parsed,
    interpret_eq mode hdocument'.inked hdocument'.parsed]
  exact ⟨hadvisories, hcost, firstCost_estimatedCost root⟩

/-- One plan without namespaces and with several. The first cost in it is not a number. -/
theorem plan_in_namespaces_reads_alike :
    let plain := "<Plan><Op EstimatedTotalSubtreeCost='?'/><Op EstimatedTotalSubtreeCost='1.5'/>" ++
      "<MissingIndexGroup Impact='9'><MissingIndex Table='[A]'/></MissingIndexGroup></Plan>"
    let spaced := "<Plan xmlns='u'><Op EstimatedTotalSubtreeCost='?'/>" ++
      "<v:Op xmlns:v='v' EstimatedTotalSubtreeCost='1.5'/>" ++
      "<MissingIndexGroup Impact='9' xmlns=''><v:MissingIndex xmlns:v='v' Table='[A]'/>" ++
      "</MissingIndexGroup></Plan>"
    ∃ root root', HasTree plain root ∧ HasTree spaced root' ∧ root ≠ root' ∧
      SameApartFromSpaces root root' ∧
      (interpret .actual spaced).advisories = (interpret .actual plain).advisories ∧
      (interpret .actual spaced).estimatedCost = .finite (3 / 2) := by
  intro plain spaced
  have hplain : isBlankString plain = false := by decide +kernel
  have hspaced : isBlankString spaced = false := by decide +kernel
  have hparsed : (do
      let root ← parse? (withoutDeclaration plain.toList)
      let root' ← parse? (withoutDeclaration spaced.toList)
      pure (decide (root ≠ root' ∧ SameApartFromSpaces root root' ∧
        estimatedCost root = .finite (3 / 2)))) = some true := by decide +kernel
  obtain ⟨root, hroot, hrest⟩ := Option.bind_eq_some_iff.mp hparsed
  obtain ⟨root', hroot', hfacts⟩ := Option.bind_eq_some_iff.mp hrest
  obtain ⟨hne, hsame, hcost⟩ := of_decide_eq_true (Option.some.inj hfacts)
  have htree : HasTree plain root := ⟨hplain, hroot⟩
  have htree' : HasTree spaced root' := ⟨hspaced, hroot'⟩
  have halike := (namespaces_do_not_matter hsame).2.2.2 .actual plain spaced htree htree'
  refine ⟨root, root', htree, htree', hne, hsame, halike.1, ?_⟩
  rw [halike.2.1, interpret_eq .actual hplain hroot]
  exact hcost

end Plan

end QueryTuning
