import QueryTuning.Proofs.Pattern.Scan
import QueryTuning.Proofs.Query.ServerNames
import QueryTuning.Query.Placeholder

/-!
# Dummy literals for placeholders

Every placeholder gives way to a literal and no other comes up for it: an at sign that is
kept keeps the character after it, and no placeholder begins after the digit that is
written. The names of the server stay, since a placeholder continues none of them; only a
LIKE at the end of one may be written anew.
-/

set_option autoImplicit false

namespace QueryTuning.Query

open Pattern Text

def HasPlaceholder (text : List Char) : Prop :=
  ∃ before x after, text = before ++ '@' :: x :: after ∧
    EndsOutside continuesName before ∧ isWord x = true

def EndsName (last : Option Char) : Prop := ∀ y, last = some y → continuesName y = false

def beginsPlaceholder : Cursor → Bool
  | ⟨last, a :: x :: _⟩ => a == '@' && isWord x && !last.any continuesName
  | _ => false

def Bare (c : Cursor) : Prop := ∀ d ∈ c.positions, beginsPlaceholder d = false

variable {c d : Cursor} {x : Char} {xs : List Char} {last : Option Char}

theorem beginsPlaceholder_iff : beginsPlaceholder c = true ↔
    EndsName c.last ∧ ∃ x xs, c.rest = '@' :: x :: xs ∧ isWord x = true := by
  obtain ⟨last, rest⟩ := c
  match rest with
  | [] | [_] => simp [beginsPlaceholder]
  | a :: x :: xs =>
    have hlast : last.any continuesName = false ↔ EndsName last := by
      simp [EndsName, Option.any_eq_false]
    simp only [beginsPlaceholder, Bool.and_eq_true, Bool.not_eq_true', beq_iff_eq, hlast,
      List.cons.injEq]
    constructor
    · rintro ⟨⟨rfl, hx⟩, hlast⟩
      exact ⟨hlast, x, xs, ⟨rfl, rfl, rfl⟩, hx⟩
    · rintro ⟨hlast, _, _, ⟨rfl, rfl, rfl⟩, hx⟩
      exact ⟨⟨rfl, hx⟩, hlast⟩

theorem hasPlaceholder_iff {text : List Char} : HasPlaceholder text ↔
    ∃ c ∈ (Cursor.ofText text).positions, beginsPlaceholder c = true := by
  constructor
  · rintro ⟨before, x, after, rfl, hbefore, hx⟩
    refine ⟨⟨before.getLast?, '@' :: x :: after⟩, ?_, ?_⟩
    · exact Cursor.mem_positions.mpr ⟨before, rfl, by simp [Cursor.ofText]⟩
    · exact beginsPlaceholder_iff.mpr ⟨hbefore, x, after, rfl, hx⟩
  · rintro ⟨c, hc, hbegins⟩
    obtain ⟨before, hspan⟩ := Cursor.mem_positions.mp hc
    obtain ⟨hlast, x, after, hrest, hx⟩ := beginsPlaceholder_iff.mp hbegins
    have hbefore : c.last = before.getLast? := by simpa [Cursor.ofText] using hspan.last
    refine ⟨before, x, after, ?_, fun y hy => hlast y (hbefore.trans hy), hx⟩
    rw [← hrest]
    exact hspan.rest

theorem bare_ofText {text : List Char} : Bare (.ofText text) ↔ ¬ HasPlaceholder text := by
  simp [hasPlaceholder_iff, Bare]

instance (text : List Char) : Decidable (HasPlaceholder text) :=
  decidable_of_iff _ hasPlaceholder_iff.symm

theorem bare_nil (last : Option Char) : Bare ⟨last, []⟩ := by
  simp [Bare, Cursor.positions, Cursor.positionsAfter, beginsPlaceholder]

theorem bare_cons :
    Bare ⟨last, x :: xs⟩ ↔ beginsPlaceholder ⟨last, x :: xs⟩ = false ∧ Bare ⟨some x, xs⟩ := by
  simp [Bare, Cursor.positions, Cursor.positionsAfter]

theorem continuesName_of_isBlank (hx : isBlank x = true) : continuesName x = false := by
  have hat : x ≠ '@' := by
    rintro rfl
    exact absurd hx (by decide)
  simp [continuesName, hat, isWord_of_isBlank hx]

theorem ne_at_of_isWord (hx : isWord x = true) : x ≠ '@' := by
  rintro rfl
  exact absurd hx (by decide)

theorem folded_at : folded x = folded '@' ↔ x = '@' := folded_eq_mark (by decide)

theorem mem_ends_placeholder : d ∈ ends placeholder c ↔
    EndsName c.last ∧ ∃ x name, isWord x = true ∧ (∀ y ∈ name, isWord y = true) ∧
      c.Spans ('@' :: x :: name) d := by
  simp only [placeholder, sequence_cons, sequence_nil, mem_ends_seq, mem_ends_empty,
    mem_ends_notAfter, mem_ends_notBefore, mem_ends_letter, mem_ends_run1, folded_at]
  constructor
  · rintro ⟨_, ⟨hlast, rfl⟩, m, ⟨_, rfl, hspan⟩, _, ⟨-, rfl⟩, _, ⟨x, name, hx, hname, hrest⟩, rfl⟩
    exact ⟨hlast, x, name, hx, hname, hspan.append hrest⟩
  · rintro ⟨hlast, x, name, hx, hname, hspan⟩
    obtain ⟨m, hm, hrest⟩ := Cursor.spans_cons.mp hspan
    refine ⟨c, ⟨hlast, rfl⟩, m, ⟨'@', rfl, hm⟩, m, ⟨?_, rfl⟩, d, ⟨x, name, hx, hname, hrest⟩, rfl⟩
    have hfolded : folded x ≠ folded '@' := fun h => ne_at_of_isWord hx (folded_at.mp h)
    simp [letter, ends, hrest.rest, hfolded]

theorem mem_ends_likePlaceholder (hd : d ∈ ends likePlaceholder c) :
    ∃ like blank blanks x name, like.map folded = "LIKE".toList.map folded ∧
      (∀ y ∈ blank :: blanks, isBlank y = true) ∧
      isWord x = true ∧ (∀ y ∈ name, isWord y = true) ∧
      c.Spans (like ++ (blank :: blanks ++ '@' :: x :: name)) d := by
  simp only [likePlaceholder, blanks1, sequence_cons, sequence_nil, mem_ends_seq, mem_ends_empty,
    mem_ends_boundary, mem_ends_word, mem_ends_letter, mem_ends_run1, folded_at] at hd
  obtain ⟨_, ⟨-, rfl⟩, m, ⟨like, hlike, hspan₁⟩, n, ⟨blank, blanks, hblank, hblanks, hspan₂⟩,
    o, ⟨_, rfl, hspan₃⟩, _, ⟨x, name, hx, hname, hspan₄⟩, rfl⟩ := hd
  exact ⟨like, blank, blanks, x, name, hlike, by simpa [hblank] using hblanks, hx, hname,
    hspan₁.append (hspan₂.append (hspan₃.append hspan₄))⟩

theorem ends_placeholder_eq_nil : ends placeholder c = [] ↔ beginsPlaceholder c = false := by
  rw [List.eq_nil_iff_forall_not_mem, ← Bool.not_eq_true, beginsPlaceholder_iff]
  constructor
  · rintro hnone ⟨hlast, x, xs, hrest, hx⟩
    exact hnone ⟨some x, xs⟩ (mem_ends_placeholder.mpr ⟨hlast, x, [], hx, by simp, hrest, rfl⟩)
  · intro hnot d hd
    obtain ⟨hlast, x, name, hx, -, hspan⟩ := mem_ends_placeholder.mp hd
    exact hnot ⟨hlast, x, name ++ d.rest, hspan.rest, hx⟩

/-- A scan passes over no placeholder, for none is an empty text. -/
theorem beginsPlaceholder_of_miss
    (hmiss : ∀ d, (ends placeholder c).head? = some d → ¬ d.rest.length < c.rest.length) :
    beginsPlaceholder c = false := by
  rw [← ends_placeholder_eq_nil]
  cases hends : ends placeholder c with
  | nil => rfl
  | cons d ds =>
    have hd : d ∈ ends placeholder c := by simp [hends]
    obtain ⟨-, x, name, -, -, hspan⟩ := mem_ends_placeholder.mp hd
    refine absurd ?_ (hmiss d (by rw [hends]; rfl))
    rw [hspan.rest, List.length_append, List.length_cons]
    omega

/-- After a character of a name the next one stays. -/
theorem head?_replaceFrom_placeholder {replacement : List Char} (hx : continuesName x = true) :
    (replaceFrom placeholder replacement ⟨some x, xs⟩).head? = xs.head? := by
  cases xs with
  | nil => rw [replaceFrom_end rfl]
  | cons y ys =>
    have hnone : ends placeholder ⟨some x, y :: ys⟩ = [] := by
      rw [ends_placeholder_eq_nil]
      cases ys <;> simp [beginsPlaceholder, hx]
    rw [replaceFrom_none rfl hnone]
    rfl

/-- The result is bare after every character after which a name goes on if one goes on in the
text. -/
theorem bare_replaceFrom (c : Cursor) (last : Option Char)
    (hlast : EndsName last → EndsName c.last) : Bare ⟨last, replaceFrom placeholder ['1'] c⟩ := by
  induction c using scan_induction placeholder generalizing last with
  | done c hrest =>
    rw [replaceFrom_end hrest]
    exact bare_nil last
  | hit c d hd hshort ih =>
    have hone : ¬ EndsName (some '1') := fun h => absurd (h '1' rfl) (by decide)
    rw [replaceFrom_hit hd hshort, List.singleton_append, bare_cons]
    refine ⟨?_, ih _ fun h => absurd h hone⟩
    cases replaceFrom placeholder ['1'] d <;> rfl
  | kept c x xs hrest hmiss ih =>
    rw [replaceFrom_kept hrest hmiss, bare_cons]
    refine ⟨?_, ih _ id⟩
    -- What follows an at sign now has followed it before, so a placeholder would have begun here.
    by_contra hbegins
    obtain ⟨hends, y, ys, hcons, hy⟩ := beginsPlaceholder_iff.mp (by simpa using hbegins)
    obtain ⟨rfl, hlater⟩ := List.cons.inj hcons
    have hsame : (replaceFrom placeholder ['1'] ⟨some '@', xs⟩).head? = xs.head? :=
      head?_replaceFrom_placeholder (by decide)
    have hhead : xs.head? = some y := by
      rw [← hsame, hlater]
      rfl
    obtain ⟨zs, rfl⟩ := List.head?_eq_some_iff.mp hhead
    have hbegan : beginsPlaceholder c = true :=
      beginsPlaceholder_iff.mpr ⟨hlast hends, y, zs, hrest, hy⟩
    simp [beginsPlaceholder_of_miss hmiss] at hbegan

theorem bare_substituteText (text : List Char) : ¬ HasPlaceholder (substituteText text) := by
  rw [← bare_ofText]
  exact bare_replaceFrom _ none id

/-- A placeholder after LIKE is a placeholder, for a blank precedes it. -/
theorem substituteText_of_bare {text : List Char} (h : ¬ HasPlaceholder text) :
    substituteText text = text := by
  have hbare : Bare (.ofText text) := bare_ofText.mpr h
  have hlike : replaceAll likePlaceholder "LIKE '1'".toList text = text := by
    rw [replaceAll_eq]
    refine replaceFrom_of_none fun c hc => ?_
    rw [List.eq_nil_iff_forall_not_mem]
    intro d hd
    obtain ⟨like, blank, blanks, x, name, -, hblanks, hx, -, hspan⟩ :=
      mem_ends_likePlaceholder hd
    rw [← List.append_assoc] at hspan
    obtain ⟨m, hm, hname⟩ := Cursor.spans_append.mp hspan
    obtain ⟨before, hbefore⟩ := Cursor.mem_positions.mp hc
    have hlast : EndsName m.last := by
      obtain ⟨n, -, hblank⟩ := Cursor.spans_append.mp hm
      obtain ⟨y, hy, hlast⟩ := hblank.last_mem
      intro z hz
      obtain rfl : y = z := Option.some.inj (hlast.symm.trans hz)
      exact continuesName_of_isBlank (hblanks y hy)
    have hbegins := beginsPlaceholder_iff.mpr ⟨hlast, x, name ++ d.rest, hname.rest, hx⟩
    simp [hbare m (Cursor.mem_positions.mpr ⟨_, hbefore.append hm⟩)] at hbegins
  rw [substituteText, hlike, replaceAll_eq]
  exact replaceFrom_of_none fun c hc => ends_placeholder_eq_nil.mpr (hbare c hc)

theorem serverNames_placeholder {name : List Char} (hx : isWord x = true)
    (hname : ∀ y ∈ name, isWord y = true) (rest : List Char) :
    serverNames ('@' :: x :: name ++ rest) = serverNames rest := by
  have hat : '@' ∉ x :: name := by
    intro hmem
    rcases List.mem_cons.mp hmem with rfl | hmem
    · exact ne_at_of_isWord hx rfl
    · exact ne_at_of_isWord (hname _ hmem) rfl
  rw [List.cons_append, List.cons_append, serverNames_single (ne_at_of_isWord hx),
    ← List.cons_append, serverNames_append_of_not_mem hat]

theorem serverNames_replaceFrom_placeholder (c : Cursor) :
    serverNames (replaceFrom placeholder ['1'] c) = serverNames c.rest := by
  induction c using hit_induction placeholder with
  | none c _ hsame => rw [hsame]
  | first c before h hfirst ih =>
    obtain ⟨hlast, x, name, hx, hname, hspan⟩ :=
      mem_ends_placeholder.mp (List.mem_of_head? hfirst.stop)
    have hbefore : EndsOutside continuesName before := fun y hy =>
      hlast y (by rw [hfirst.kept.last, hy, Option.some_or])
    rw [hfirst.replaced, serverNames_append (.inl hbefore), List.singleton_append,
      serverNames_cons_of_ne (by decide), ih, hfirst.kept.rest, hspan.rest,
      serverNames_append (.inl hbefore), serverNames_placeholder hx hname]

/-- A name of the server may end in LIKE, and then it ends in the LIKE that is written anew. -/
theorem serverNames_replaceFrom_likePlaceholder (c : Cursor) :
    (serverNames (replaceFrom likePlaceholder "LIKE '1'".toList c)).map (List.map folded) =
      (serverNames c.rest).map (List.map folded) := by
  induction c using hit_induction likePlaceholder with
  | none c _ hsame => rw [hsame]
  | first c before h hfirst ih =>
    obtain ⟨like, blank, blanks, x, name, hlike, hblanks, hx, hname, hspan⟩ :=
      mem_ends_likePlaceholder (List.mem_of_head? hfirst.stop)
    have hat : '@' ∉ blank :: blanks := fun hmem => absurd (hblanks _ hmem) (by decide)
    have hwritten : ∀ rest, before ++ ("LIKE '1'".toList ++ rest) =
        (before ++ "LIKE".toList) ++ (" '1'".toList ++ rest) := by simp
    have hread : c.rest = (before ++ like) ++
        (blank :: blanks ++ ('@' :: x :: name ++ h.stop.rest)) := by
      simp [hfirst.kept.rest, hspan.rest]
    have hfolded : (before ++ "LIKE".toList).map folded = (before ++ like).map folded := by
      rw [List.map_append, List.map_append, hlike]
    calc
      _ = (serverNames (before ++ "LIKE".toList)).map (List.map folded) ++
          (serverNames h.stop.rest).map (List.map folded) := by
        rw [hfirst.replaced, hwritten, serverNames_gap (by decide) (by decide) (by decide),
          List.map_append, ih]
      _ = (serverNames (before ++ like)).map (List.map folded) ++
          (serverNames h.stop.rest).map (List.map folded) := by
        rw [← serverNames_folded, hfolded, serverNames_folded]
      _ = (serverNames c.rest).map (List.map folded) := by
        have hblank : continuesName blank = false := continuesName_of_isBlank (hblanks _ (by simp))
        rw [hread, serverNames_gap (by simp) (startsOutside_cons.mpr hblank) hat,
          serverNames_placeholder hx hname, List.map_append]

theorem serverNames_substituteText (text : List Char) :
    (serverNames (substituteText text)).map (List.map folded) =
      (serverNames text).map (List.map folded) := by
  rw [substituteText, replaceAll_eq, serverNames_replaceFrom_placeholder]
  exact serverNames_replaceFrom_likePlaceholder (.ofText text)

/-- Substituting leaves no placeholder and nothing to do for a second time. A query without
placeholders stays as it is, and every query keeps its names of the server, but for the case of
their letters. -/
theorem placeholders_give_way (query : String) :
    ¬ HasPlaceholder (substitutePlaceholders query).toList ∧
      substitutePlaceholders (substitutePlaceholders query) = substitutePlaceholders query ∧
      (¬ HasPlaceholder query.toList → substitutePlaceholders query = query) ∧
      (serverNames (substitutePlaceholders query).toList).map (List.map folded) =
        (serverNames query.toList).map (List.map folded) := by
  have hresult : (substitutePlaceholders query).toList = substituteText query.toList := by
    simp [substitutePlaceholders]
  have hbare : ¬ HasPlaceholder (substitutePlaceholders query).toList :=
    hresult ▸ bare_substituteText query.toList
  have hsame : ∀ query : String, ¬ HasPlaceholder query.toList →
      substitutePlaceholders query = query := fun query h => by
    rw [substitutePlaceholders, substituteText_of_bare h, String.ofList_toList]
  refine ⟨hbare, hsame _ hbare, hsame query, ?_⟩
  rw [hresult, serverNames_substituteText]

/-- At signs within names begin no placeholder. -/
theorem names_with_at_signs_stay :
    let query := "SELECT @@ROWCOUNT, a@b FROM T WHERE c LIKE @@like@p"
    ¬ HasPlaceholder query.toList ∧ substitutePlaceholders query = query := by
  intro query
  have hbare : ¬ HasPlaceholder query.toList := by decide +kernel
  exact ⟨hbare, (placeholders_give_way query).2.2.1 hbare⟩

example : substitutePlaceholders "SELECT @a@b, @@like @p WHERE c LIKE @p@q" =
    "SELECT 1@b, @@LIKE '1' WHERE c LIKE '1'1" := by decide +kernel

end QueryTuning.Query
