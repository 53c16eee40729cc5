import Mathlib.Data.List.Find
import Mathlib.Data.List.Forall2
import Mathlib.Data.List.Nodup
import Mathlib.Data.List.Perm.Basic

/-!
# Lists

Lists whose items are related one by one, and conversions of all items of a list, which succeed
exactly if they succeed for each item. Searches, concatenations and sorted lists are compared
through what is known of the items.
-/

set_option autoImplicit false

namespace QueryTuning

variable {α β γ δ ε : Type} {R : α → β → Prop} {as : List α} {bs : List β}

theorem exists_of_mem_left (h : List.Forall₂ R as bs) {a : α} (ha : a ∈ as) : ∃ b ∈ bs, R a b := by
  induction h with
  | nil => cases ha
  | @cons a' b _ _ hab _ ih =>
    rcases List.mem_cons.mp ha with rfl | ha
    · exact ⟨b, by simp, hab⟩
    · obtain ⟨b', hb', hr⟩ := ih ha
      exact ⟨b', by simp [hb'], hr⟩

theorem pairwise_of_forall₂ {P : α → α → Prop} {Q : β → β → Prop}
    (hPQ : ∀ {a a' b b'}, R a b → R a' b' → P a a' → Q b b') (h : List.Forall₂ R as bs)
    (hP : as.Pairwise P) : bs.Pairwise Q := by
  induction h with
  | nil => exact .nil
  | cons hab hrest ih =>
    obtain ⟨hfirst, hothers⟩ := List.pairwise_cons.mp hP
    refine .cons (fun b' hb' => ?_) (ih hothers)
    obtain ⟨a', ha', hab'⟩ := exists_of_mem_left hrest.flip hb'
    exact hPQ hab hab' (hfirst a' ha')

theorem map_eq_of_forall₂ {f : α → γ} {g : β → γ} (h : List.Forall₂ R as bs)
    (hR : ∀ a b, R a b → f a = g b) : as.map f = bs.map g := by
  have hmap : List.Forall₂ Eq (as.map f) (bs.map g) := List.rel_map (fun a b => hR a b) h
  rwa [List.forall₂_eq_eq_eq] at hmap

theorem mapM_eq_ok_iff {f : α → Except ε β} :
    as.mapM f = .ok bs ↔ List.Forall₂ (fun a b => f a = .ok b) as bs := by
  induction as generalizing bs with
  | nil => simp [pure, Except.pure, eq_comm]
  | cons a as ih =>
    rw [List.mapM_cons, List.forall₂_cons_left_iff]
    cases ha : f a with
    | error fault => simp [bind, Except.bind]
    | ok b =>
      cases has : as.mapM f with
      | error fault => simp [bind, Except.bind, ← ih, has]
      | ok bs => simp [bind, Except.bind, pure, Except.pure, ← ih, has, eq_comm]

theorem exists_forall₂ (h : ∀ a ∈ as, ∃ b, R a b) : ∃ bs, List.Forall₂ R as bs := by
  induction as with
  | nil => exact ⟨[], .nil⟩
  | cons a as ih =>
    obtain ⟨⟨b, hb⟩, hrest⟩ := List.forall_mem_cons.mp h
    obtain ⟨bs, hbs⟩ := ih hrest
    exact ⟨b :: bs, .cons hb hbs⟩

theorem mapM_ok {f : α → Except ε β} (h : ∀ a ∈ as, ∃ b, f a = .ok b) :
    ∃ bs, as.mapM f = .ok bs := by
  simp only [mapM_eq_ok_iff]
  exact exists_forall₂ h

theorem mapM_eq_map {f : α → Except ε β} {g : α → β} (h : ∀ a ∈ as, f a = .ok (g a)) :
    as.mapM f = .ok (as.map g) := by
  rw [mapM_eq_ok_iff, List.forall₂_map_right_iff, List.forall₂_same]
  exact h

theorem exists_of_mem_mapM {f : α → Except ε β} (h : as.mapM f = .ok bs) {b : β} (hb : b ∈ bs) :
    ∃ a ∈ as, f a = .ok b :=
  exists_of_mem_left (mapM_eq_ok_iff.mp h).flip hb

/-- Values that are read one by one, and converted afterwards. -/
theorem mapM_of_forall₂ {f : α → Except ε γ} {k : γ → δ} {g : β → δ} (h : List.Forall₂ R as bs)
    (hR : ∀ a b, R a b → (f a).map k = .ok (g b)) :
    ∃ values, as.mapM f = .ok values ∧ bs.map g = values.map k := by
  simp only [mapM_eq_ok_iff]
  induction h with
  | nil => exact ⟨[], .nil, rfl⟩
  | @cons a b _ _ hab _ ih =>
    obtain ⟨values, hvalues, hmap⟩ := ih
    have hfirst := hR a b hab
    cases hvalue : f a with
    | error fault =>
      rw [hvalue] at hfirst
      cases hfirst
    | ok value =>
      rw [hvalue] at hfirst
      exact ⟨value :: values, .cons hvalue hvalues,
        by rw [List.map_cons, List.map_cons, ← hmap, ← Except.ok.inj hfirst]⟩

theorem findSome?_of_agree {f g : α → Option β} {xs : List α} (h : ∀ x ∈ xs, f x = g x) : xs.findSome? f = xs.findSome? g := by
  rw [← List.head?_filterMap, List.filterMap_congr h, List.head?_filterMap]

theorem findSome?_map_of_agree {f : β → Option γ} {g : α → Option δ}
    {fold : α → β} {map : δ → γ} {xs : List α} (h : ∀ x ∈ xs, f (fold x) = (g x).map map) :
    (xs.map fold).findSome? f = (xs.findSome? g).map map := by
  rw [List.findSome?_map, List.map_findSome?]
  exact findSome?_of_agree h

theorem find?_map_of_agree {f : β → Bool} {g : α → Bool} {fold : α → β} {xs : List α}
    (h : ∀ x ∈ xs, f (fold x) = g x) : (xs.map fold).find? f = (xs.find? g).map fold := by
  rw [List.find?_map]
  exact congrArg _ (List.find?_congr h)

theorem mem_intercalate {sep xs : List α} {xss : List (List α)} {x : α} (hx : x ∈ xs)
    (hxs : xs ∈ xss) : x ∈ sep.intercalate xss := by
  induction xss with
  | nil => simp at hxs
  | cons ys xss ih =>
    rcases List.mem_cons.mp hxs with rfl | hxs
    · cases xss <;> simp [hx]
    · rw [List.intercalate_cons_of_ne_nil (List.ne_nil_of_mem hxs)]
      simp [ih hxs]

section

variable {f f' g : α → List β} {xs : List α}

theorem flatMap_append_of_pairwise (h : xs.Pairwise fun x y => f y = [] ∨ g x = []) :
    xs.flatMap (fun x => f x ++ g x) = xs.flatMap f ++ xs.flatMap g := by
  induction xs with
  | nil => rfl
  | cons x xs ih =>
    obtain ⟨hx, hxs⟩ := List.pairwise_cons.mp h
    have hswap : g x ++ xs.flatMap f = xs.flatMap f ++ g x := by
      by_cases hg : g x = []
      · simp [hg]
      · have hf : xs.flatMap f = [] :=
          List.flatMap_eq_nil_iff.mpr fun y hy => (hx y hy).resolve_right hg
        simp [hf]
    simp only [List.flatMap_cons, ih hxs, List.append_assoc]
    rw [← List.append_assoc (g x), hswap, List.append_assoc]

/-- Only where nothing of the first kind comes after something of the second can the two kinds
be told apart without changing the order. -/
theorem pairwise_of_flatMap_append (hlength : ∀ x ∈ xs, (f' x).length = (g x).length)
    (hnodup : (xs.flatMap fun x => f x ++ f' x).Nodup)
    (h : (xs.flatMap fun x => f x ++ f' x) = xs.flatMap f ++ xs.flatMap g) :
    (∀ x ∈ xs, f' x = g x) ∧ xs.Pairwise fun x y => f y = [] ∨ g x = [] := by
  induction xs with
  | nil => simp
  | cons x xs ih =>
    obtain ⟨hx, hxs⟩ := List.forall_mem_cons.mp hlength
    simp only [List.flatMap_cons, List.append_assoc, List.append_cancel_left_eq] at h hnodup
    obtain ⟨-, hlater, hapart⟩ := List.nodup_append.mp (List.nodup_append.mp hnodup).2.1
    by_cases hf : xs.flatMap f = []
    · rw [hf, List.nil_append] at h
      obtain ⟨hfirst, hrest⟩ := List.append_inj h hx
      obtain ⟨hsame, hpairs⟩ := ih hxs hlater (by rw [hrest, hf, List.nil_append])
      have hnone := List.flatMap_eq_nil_iff.mp hf
      exact ⟨List.forall_mem_cons.mpr ⟨hfirst, hsame⟩,
        List.pairwise_cons.mpr ⟨fun y hy => .inl (hnone y hy), hpairs⟩⟩
    · by_cases hg : g x = []
      · have hf' : f' x = [] := List.eq_nil_of_length_eq_zero (by simp [hx, hg])
        rw [hg, hf', List.nil_append, List.nil_append] at h
        obtain ⟨hsame, hpairs⟩ := ih hxs hlater h
        exact ⟨List.forall_mem_cons.mpr ⟨hf'.trans hg.symm, hsame⟩,
          List.pairwise_cons.mpr ⟨fun _ _ => .inr hg, hpairs⟩⟩
      · -- What comes first would be found in the first part and in the rest.
        obtain ⟨a, as, ha⟩ := List.exists_cons_of_ne_nil hf
        have hne : f' x ≠ [] := fun hnil => hg (List.eq_nil_of_length_eq_zero (by simp [← hx, hnil]))
        obtain ⟨b, bs, hb⟩ := List.exists_cons_of_ne_nil hne
        have hmem : a ∈ xs.flatMap fun x => f x ++ f' x := by
          obtain ⟨y, hy, hay⟩ := List.mem_flatMap.mp (show a ∈ xs.flatMap f by simp [ha])
          exact List.mem_flatMap.mpr ⟨y, hy, List.mem_append_left _ hay⟩
        rw [ha, hb] at h
        obtain rfl : b = a := (List.cons.inj h).1
        exact absurd rfl (hapart b (by simp [hb]) b hmem)

end

/-- Lists with the same items that a function tells apart are sorted by it in one way. -/
theorem mergeSort_eq_of_mem_iff {f : α → β} {r : β → β → Bool}
    (htrans : ∀ a b c, r a b = true → r b c = true → r a c = true)
    (htotal : ∀ a b, (r a b || r b a) = true)
    (hantisymm : ∀ a b, r a b = true → r b a = true → a = b) {xs ys : List α}
    (hxs : (xs.map f).Nodup) (hys : (ys.map f).Nodup) (h : ∀ a, a ∈ xs ↔ a ∈ ys) :
    (xs.mergeSort fun a b => r (f a) (f b)) = ys.mergeSort fun a b => r (f a) (f b) := by
  have hperm : xs.Perm ys :=
    (List.perm_ext_iff_of_nodup (List.Nodup.of_map f hxs) (List.Nodup.of_map f hys)).mpr h
  have hsorted : ∀ zs : List α, (zs.mergeSort fun a b => r (f a) (f b)).Pairwise
      fun a b => r (f a) (f b) = true :=
    List.pairwise_mergeSort (fun a b c => htrans (f a) (f b) (f c)) fun a b => htotal (f a) (f b)
  refine List.Perm.eq_of_pairwise ?_ (hsorted xs) (hsorted ys)
    ((List.mergeSort_perm xs _).trans (hperm.trans (List.mergeSort_perm ys _).symm))
  intro a b ha hb hab hba
  have hb' := (h b).mpr (List.mem_mergeSort.mp hb)
  exact List.inj_on_of_nodup_map hxs (List.mem_mergeSort.mp ha) hb' (hantisymm _ _ hab hba)

end QueryTuning
