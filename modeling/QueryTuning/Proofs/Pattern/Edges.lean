import QueryTuning.Proofs.Pattern.Ends

/-!
# What a pattern begins and ends with

Whether a pattern may take no text, and which characters may stand first, last and anywhere in
the text that it takes, is computed from the pattern. The results are upper bounds: they leave
out of account what a neighbouring pattern or a look-around rules out.
-/

set_option autoImplicit false

namespace QueryTuning.Pattern

open Text

def Accepts (p : Pattern) (t : List Char) : Prop := ∃ c d, d ∈ ends p c ∧ c.Spans t d

variable {p q : Pattern} {c d : Cursor} {t : List Char}

theorem accepts_of_mem_ends (hd : d ∈ ends p c) : ∃ t, c.Spans t d ∧ Accepts p t := by
  obtain ⟨t, ht⟩ := spans_of_mem_ends hd
  exact ⟨t, ht, c, d, hd, ht⟩

theorem accepts_one {accepts : Char → Bool} (h : Accepts (one accepts) t) :
    ∃ x, accepts x = true ∧ t = [x] := by
  obtain ⟨c, d, hd, ht⟩ := h
  obtain ⟨x, hx, hone⟩ := mem_ends_one.mp hd
  exact ⟨x, hx, by rw [← ht.upTo, hone.upTo]⟩

theorem accepts_seq (h : Accepts (seq p q) t) :
    ∃ u v, t = u ++ v ∧ Accepts p u ∧ Accepts q v := by
  obtain ⟨c, d, hd, ht⟩ := h
  obtain ⟨m, hm, hd⟩ := mem_ends_seq.mp hd
  obtain ⟨u, hu, hp⟩ := accepts_of_mem_ends hm
  obtain ⟨v, hv, hq⟩ := accepts_of_mem_ends hd
  exact ⟨u, v, by rw [← ht.upTo, (hu.append hv).upTo], hp, hq⟩

theorem accepts_alt (h : Accepts (alt p q) t) : Accepts p t ∨ Accepts q t := by
  obtain ⟨c, d, hd, ht⟩ := h
  rw [ends, List.mem_append] at hd
  exact hd.imp (fun hd => ⟨c, d, hd, ht⟩) fun hd => ⟨c, d, hd, ht⟩

theorem pieces_of_mem_manyEnds {β : Type} {budget : List β}
    (hd : d ∈ manyEnds (ends p) budget c) :
    ∃ ts : List (List Char), (∀ t ∈ ts, Accepts p t) ∧ c.Spans ts.flatten d := by
  induction budget generalizing c with
  | nil => exact ⟨[], by simp, Cursor.spans_nil.mpr (by simpa [manyEnds] using hd)⟩
  | cons b budget ih =>
    rw [manyEnds, List.mem_append, List.mem_flatMap, List.mem_singleton] at hd
    rcases hd with ⟨m, hm, hd⟩ | rfl
    · obtain ⟨t, ht, hp⟩ := accepts_of_mem_ends hm
      obtain ⟨ts, hts, hrest⟩ := ih hd
      exact ⟨t :: ts, List.forall_mem_cons.mpr ⟨hp, hts⟩, ht.append hrest⟩
    · exact ⟨[], by simp, Cursor.spans_nil.mpr rfl⟩

theorem pieces_of_mem_fewEnds {β : Type} {budget : List β}
    (hd : d ∈ fewEnds (ends p) budget c) :
    ∃ ts : List (List Char), (∀ t ∈ ts, Accepts p t) ∧ c.Spans ts.flatten d := by
  induction budget generalizing c with
  | nil => exact ⟨[], by simp, Cursor.spans_nil.mpr (by simpa [fewEnds] using hd)⟩
  | cons b budget ih =>
    rw [fewEnds, List.mem_cons, List.mem_flatMap] at hd
    rcases hd with rfl | ⟨m, hm, hd⟩
    · exact ⟨[], by simp, Cursor.spans_nil.mpr rfl⟩
    · obtain ⟨t, ht, hp⟩ := accepts_of_mem_ends hm
      obtain ⟨ts, hts, hrest⟩ := ih hd
      exact ⟨t :: ts, List.forall_mem_cons.mpr ⟨hp, hts⟩, ht.append hrest⟩

theorem accepts_many {limit : Option Nat} (h : Accepts (many limit p) t) :
    ∃ ts : List (List Char), (∀ u ∈ ts, Accepts p u) ∧ t = ts.flatten := by
  obtain ⟨c, d, hd, ht⟩ := h
  have hpieces : ∃ ts : List (List Char), (∀ t ∈ ts, Accepts p t) ∧ c.Spans ts.flatten d := by
    cases limit <;> exact pieces_of_mem_manyEnds hd
  obtain ⟨ts, hts, hspan⟩ := hpieces
  exact ⟨ts, hts, by rw [← ht.upTo, hspan.upTo]⟩

theorem accepts_few (h : Accepts (few p) t) :
    ∃ ts : List (List Char), (∀ u ∈ ts, Accepts p u) ∧ t = ts.flatten := by
  obtain ⟨c, d, hd, ht⟩ := h
  obtain ⟨ts, hts, hspan⟩ := pieces_of_mem_fewEnds hd
  exact ⟨ts, hts, by rw [← ht.upTo, hspan.upTo]⟩

def looks : Pattern → Bool
  | empty | notBefore _ | notAfter _ | boundary | atEnd => true
  | one _ | seq _ _ | alt _ _ | many _ _ | few _ => false

theorem accepts_look (hp : looks p = true) (h : Accepts p t) : t = [] := by
  obtain ⟨c, d, hd, ht⟩ := h
  have hsame : d = c := by
    cases p with
    | empty => exact mem_ends_empty.mp hd
    | notBefore _ | notAfter _ | boundary | atEnd =>
      rw [ends] at hd
      split at hd <;> simp_all
    | one _ | seq _ _ | alt _ _ | many _ _ | few _ => simp [looks] at hp
  rw [← ht.upTo, hsame, (Cursor.spans_nil.mpr rfl).upTo]

def mayBeEmpty : Pattern → Bool
  | one _ => false
  | seq p q => mayBeEmpty p && mayBeEmpty q
  | alt p q => mayBeEmpty p || mayBeEmpty q
  | empty | many _ _ | few _ | notBefore _ | notAfter _ | boundary | atEnd => true

theorem mayBeEmpty_of_accepts (h : Accepts p []) : mayBeEmpty p = true := by
  induction p with
  | one accepts =>
    obtain ⟨x, -, hx⟩ := accepts_one h
    cases hx
  | seq p q hp hq =>
    obtain ⟨u, v, huv, hu, hv⟩ := accepts_seq h
    obtain ⟨rfl, rfl⟩ := List.append_eq_nil_iff.mp huv.symm
    simp [mayBeEmpty, hp hu, hq hv]
  | alt p q hp hq =>
    rcases accepts_alt h with h | h
    · simp [mayBeEmpty, hp h]
    · simp [mayBeEmpty, hq h]
  | empty | many _ _ | few _ | notBefore _ | notAfter _ | boundary | atEnd => rfl

def opensOutside (chars : List Char) : Pattern → Bool
  | one accepts => chars.all fun x => !accepts x
  | seq p q => opensOutside chars p && (!mayBeEmpty p || opensOutside chars q)
  | alt p q => opensOutside chars p && opensOutside chars q
  | many _ p | few p => opensOutside chars p
  | empty | notBefore _ | notAfter _ | boundary | atEnd => true

def closesOutside (chars : List Char) : Pattern → Bool
  | one accepts => chars.all fun x => !accepts x
  | seq p q => closesOutside chars q && (!mayBeEmpty q || closesOutside chars p)
  | alt p q => closesOutside chars p && closesOutside chars q
  | many _ p | few p => closesOutside chars p
  | empty | notBefore _ | notAfter _ | boundary | atEnd => true

variable {chars : List Char} {x : Char}

theorem not_mem_of_outside {accepts : Char → Bool} (h : (chars.all fun x => !accepts x) = true)
    (hx : accepts x = true) : x ∉ chars := by
  intro hmem
  have hrefused := List.all_eq_true.mp h x hmem
  simp [hx] at hrefused

theorem head?_flatten {ts : List (List Char)} (h : ∀ t ∈ ts, ∀ x, t.head? = some x → x ∉ chars)
    (hx : ts.flatten.head? = some x) : x ∉ chars := by
  rw [List.head?_flatten] at hx
  obtain ⟨t, ht, hx⟩ := List.exists_of_findSome?_eq_some hx
  exact h t ht x hx

theorem getLast?_flatten {ts : List (List Char)}
    (h : ∀ t ∈ ts, ∀ x, t.getLast? = some x → x ∉ chars)
    (hx : ts.flatten.getLast? = some x) : x ∉ chars := by
  rw [List.getLast?_flatten] at hx
  obtain ⟨t, ht, hx⟩ := List.exists_of_findSome?_eq_some hx
  exact h t (List.mem_reverse.mp ht) x hx

theorem not_mem_of_opens (hp : opensOutside chars p = true) (h : Accepts p t)
    (hx : t.head? = some x) : x ∉ chars := by
  induction p generalizing t x with
  | one accepts =>
    obtain ⟨y, hy, rfl⟩ := accepts_one h
    obtain rfl : y = x := by simpa using hx
    exact not_mem_of_outside hp hy
  | seq p q ihp ihq =>
    simp only [opensOutside, Bool.and_eq_true, Bool.or_eq_true, Bool.not_eq_true'] at hp
    obtain ⟨u, v, rfl, hu, hv⟩ := accepts_seq h
    cases u with
    | nil => exact ihq (hp.2.resolve_left (by simp [mayBeEmpty_of_accepts hu])) hv hx
    | cons y u => exact ihp hp.1 hu hx
  | alt p q ihp ihq =>
    rw [opensOutside, Bool.and_eq_true] at hp
    exact (accepts_alt h).elim (ihp hp.1 · hx) (ihq hp.2 · hx)
  | many limit p ih =>
    obtain ⟨ts, hts, rfl⟩ := accepts_many h
    exact head?_flatten (fun t ht x => ih hp (hts t ht)) hx
  | few p ih =>
    obtain ⟨ts, hts, rfl⟩ := accepts_few h
    exact head?_flatten (fun t ht x => ih hp (hts t ht)) hx
  | empty | notBefore _ _ | notAfter _ | boundary | atEnd => simp [accepts_look rfl h] at hx

theorem not_mem_of_closes (hp : closesOutside chars p = true) (h : Accepts p t)
    (hx : t.getLast? = some x) : x ∉ chars := by
  induction p generalizing t x with
  | one accepts =>
    obtain ⟨y, hy, rfl⟩ := accepts_one h
    obtain rfl : y = x := by simpa using hx
    exact not_mem_of_outside hp hy
  | seq p q ihp ihq =>
    simp only [closesOutside, Bool.and_eq_true, Bool.or_eq_true, Bool.not_eq_true'] at hp
    obtain ⟨u, v, rfl, hu, hv⟩ := accepts_seq h
    cases v with
    | nil =>
      have hmayBe := hp.2.resolve_left (by simp [mayBeEmpty_of_accepts hv])
      exact ihp hmayBe hu (by simpa using hx)
    | cons y v => exact ihq hp.1 hv (by simpa using hx)
  | alt p q ihp ihq =>
    rw [closesOutside, Bool.and_eq_true] at hp
    exact (accepts_alt h).elim (ihp hp.1 · hx) (ihq hp.2 · hx)
  | many limit p ih =>
    obtain ⟨ts, hts, rfl⟩ := accepts_many h
    exact getLast?_flatten (fun t ht x => ih hp (hts t ht)) hx
  | few p ih =>
    obtain ⟨ts, hts, rfl⟩ := accepts_few h
    exact getLast?_flatten (fun t ht x => ih hp (hts t ht)) hx
  | empty | notBefore _ _ | notAfter _ | boundary | atEnd => simp [accepts_look rfl h] at hx

def avoids (chars : List Char) : Pattern → Bool
  | one accepts => chars.all fun x => !accepts x
  | seq p q | alt p q => avoids chars p && avoids chars q
  | many _ p | few p => avoids chars p
  | empty | notBefore _ | notAfter _ | boundary | atEnd => true

theorem not_mem_of_avoids (hp : avoids chars p = true) (h : Accepts p t) (hx : x ∈ t) :
    x ∉ chars := by
  induction p generalizing t with
  | one accepts =>
    obtain ⟨y, hy, rfl⟩ := accepts_one h
    rw [List.mem_singleton.mp hx]
    exact not_mem_of_outside hp hy
  | seq p q ihp ihq =>
    rw [avoids, Bool.and_eq_true] at hp
    obtain ⟨u, v, rfl, hu, hv⟩ := accepts_seq h
    exact (List.mem_append.mp hx).elim (ihp hp.1 hu) (ihq hp.2 hv)
  | alt p q ihp ihq =>
    rw [avoids, Bool.and_eq_true] at hp
    exact (accepts_alt h).elim (ihp hp.1 · hx) (ihq hp.2 · hx)
  | many limit p ih =>
    obtain ⟨ts, hts, rfl⟩ := accepts_many h
    obtain ⟨u, hu, hx⟩ := List.mem_flatten.mp hx
    exact ih hp (hts u hu) hx
  | few p ih =>
    obtain ⟨ts, hts, rfl⟩ := accepts_few h
    obtain ⟨u, hu, hx⟩ := List.mem_flatten.mp hx
    exact ih hp (hts u hu) hx
  | empty | notBefore _ _ | notAfter _ | boundary | atEnd => simp [accepts_look rfl h] at hx

structure BeginsInk (p : Pattern) : Prop where
  takes : mayBeEmpty p = false
  opens : opensOutside blanks p = true

theorem cons_of_takes (hp : mayBeEmpty p = false) (hd : d ∈ ends p c) :
    ∃ x t, c.Spans (x :: t) d ∧ Accepts p (x :: t) := by
  obtain ⟨t, ht, haccepts⟩ := accepts_of_mem_ends hd
  cases t with
  | nil =>
    rw [mayBeEmpty_of_accepts haccepts] at hp
    cases hp
  | cons x t => exact ⟨x, t, ht, haccepts⟩

theorem shorter_of_takes (hp : mayBeEmpty p = false) (hd : d ∈ ends p c) :
    d.rest.length < c.rest.length := by
  obtain ⟨x, t, ht, -⟩ := cons_of_takes hp hd
  rw [ht.rest, List.length_append, List.length_cons]
  omega

theorem BeginsInk.exists_cons (hp : BeginsInk p) (hd : d ∈ ends p c) :
    ∃ x xs, c.rest = x :: xs ∧ isBlank x = false ∧ ∃ t, c.Spans (x :: t) d := by
  obtain ⟨x, t, ht, haccepts⟩ := cons_of_takes hp.takes hd
  exact ⟨x, t ++ d.rest, ht.rest, isBlank_of_not_mem (not_mem_of_opens hp.opens haccepts rfl),
    t, ht⟩

end QueryTuning.Pattern
