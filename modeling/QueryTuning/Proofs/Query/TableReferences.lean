import QueryTuning.Proofs.Pattern.Parts
import QueryTuning.Query.Tables

/-!
# References to tables

A table is named by up to four parts with dots between them. The qualifying parts are passed over
as long as each of them is there, and the part after them is taken for the name of the table: the
last part of a reference without gaps, and the part in front of the first gap otherwise.
-/

set_option autoImplicit false

namespace QueryTuning.Query

open Pattern Text

inductive TablePart where
  | bracketed (name : List Char) (filled : name ≠ []) (inside : ∀ c ∈ name, (c != ']') = true)
  | bare (name : List Char) (filled : name ≠ []) (letters : ∀ c ∈ name, isBareNameChar c = true)

namespace TablePart

def name : TablePart → List Char
  | bracketed name _ _ => name
  | bare name _ _ => name

def text : TablePart → List Char
  | bracketed name _ _ => '[' :: (name ++ [']'])
  | bare name _ _ => name

theorem bareTable_text (p : TablePart) : bareTable p.text = p.name := by
  cases p with
  | bracketed name filled inside => simp [bareTable, text, TablePart.name]
  | bare name filled letters =>
    obtain ⟨c, cs, rfl⟩ := List.exists_cons_of_ne_nil filled
    have hc : c ≠ '[' := by
      rintro rfl
      exact absurd (letters '[' (by simp)) (by decide)
    rw [text, TablePart.name, bareTable.eq_2]
    rintro name heq
    exact hc (List.cons.inj heq).1

end TablePart

structure Dot where
  before : List Char
  after : List Char
  blank_before : ∀ c ∈ before, isBlank c = true
  blank_after : ∀ c ∈ after, isBlank c = true

def Dot.text (dot : Dot) : List Char := dot.before ++ '.' :: dot.after

def Begins (text : List Char) : Prop := ∃ (p : TablePart) (more : List Char), text = p.text ++ more

def GoesOn (text : List Char) : Prop := ∃ (dot : Dot) (more : List Char),
  text = dot.text ++ more ∧ Begins more

theorem isBareNameChar_blank {c : Char} (hc : isBlank c = true) : isBareNameChar c = false := by
  have hcodes : ∀ n ∈ blankCodes, isBareNameChar (Char.ofNat n) = false := by decide
  simpa using hcodes c.toNat (mem_blankCodes hc)

/-- The first character of a part. -/
theorem TablePart.head_text (p : TablePart) :
    ∃ c cs, p.text = c :: cs ∧ (c = '[' ∨ isBareNameChar c = true) := by
  cases p with
  | bracketed name filled inside => exact ⟨'[', _, rfl, .inl rfl⟩
  | bare name filled letters =>
    obtain ⟨c, cs, rfl⟩ := List.exists_cons_of_ne_nil filled
    exact ⟨c, cs, rfl, .inr (letters c (by simp))⟩

theorem TablePart.starts_ink (p : TablePart) (more : List Char) :
    StartsOutside isBlank (p.text ++ more) := by
  obtain ⟨c, cs, heq, hc⟩ := p.head_text
  rw [heq, List.cons_append, startsOutside_cons]
  rcases hc with rfl | hc
  · decide
  · by_contra hblank
    simp [isBareNameChar_blank (by simpa using hblank)] at hc

theorem Begins.starts_ink {text : List Char} (h : Begins text) : StartsOutside isBlank text := by
  obtain ⟨p, more, rfl⟩ := h
  exact p.starts_ink more

theorem not_begins_dot (text : List Char) : ¬ Begins ('.' :: text) := by
  rintro ⟨p, more, heq⟩
  obtain ⟨c, cs, htext, hc⟩ := p.head_text
  rw [htext] at heq
  obtain ⟨rfl, -⟩ := List.cons.inj heq
  exact absurd hc (by decide)

theorem Dot.dropWhile_text (dot : Dot) {more : List Char} :
    (dot.text ++ more).dropWhile isBlank = '.' :: (dot.after ++ more) := by
  have hdot : isBlank '.' = false := by decide
  rw [Dot.text, List.append_assoc, List.dropWhile_append_of_pos dot.blank_before, List.cons_append,
    List.dropWhile_cons_of_neg (by simp [hdot])]

/-- A reference goes on exactly if another part follows a dot, both behind blanks. -/
theorem goesOn_iff {text : List Char} :
    GoesOn text ↔ ∃ cs, text.dropWhile isBlank = '.' :: cs ∧ Begins (cs.dropWhile isBlank) := by
  constructor
  · rintro ⟨dot, more, rfl, hmore⟩
    refine ⟨_, dot.dropWhile_text, ?_⟩
    rwa [dropWhile_append_outside dot.blank_after hmore.starts_ink]
  · rintro ⟨cs, htext, hbegins⟩
    refine ⟨⟨text.takeWhile isBlank, cs.takeWhile isBlank, List.all_eq_true.mp List.all_takeWhile,
      List.all_eq_true.mp List.all_takeWhile⟩, cs.dropWhile isBlank, ?_, hbegins⟩
    rw [Dot.text, List.append_assoc, List.cons_append, List.takeWhile_append_dropWhile, ← htext,
      List.takeWhile_append_dropWhile]

theorem Dot.outside (dot : Dot) (text : List Char) :
    StartsOutside isBareNameChar (dot.text ++ text) := by
  have hdot : isBareNameChar '.' = false := by decide
  cases hbefore : dot.before with
  | nil => simpa [Dot.text, hbefore, startsOutside_cons] using hdot
  | cons c cs =>
    have hc := isBareNameChar_blank (dot.blank_before c (by simp [hbefore]))
    simpa [Dot.text, hbefore, startsOutside_cons] using hc

theorem bracketed_unique {name name' text text' : List Char}
    (inside : ∀ c ∈ name, (c != ']') = true) (inside' : ∀ c ∈ name', (c != ']') = true)
    (h : name ++ ']' :: text = name' ++ ']' :: text') : text = text' := by
  have hdrop := congrArg (List.dropWhile (· != ']')) h
  rw [dropWhile_append_outside inside (startsOutside_cons.mpr (by decide)),
    dropWhile_append_outside inside' (startsOutside_cons.mpr (by decide))] at hdrop
  exact (List.cons.inj hdrop).2

/-- A part that ends in front of a character that is in no bare name is told by the text. -/
theorem TablePart.unique {p p' : TablePart} {text text' : List Char}
    (h : p.text ++ text = p'.text ++ text') (ht : StartsOutside isBareNameChar text)
    (ht' : StartsOutside isBareNameChar text') : text = text' := by
  have hopen : ∀ {name : List Char} {more more' : List Char}, name ≠ [] →
      (∀ c ∈ name, isBareNameChar c = true) → name ++ more ≠ '[' :: more' := by
    intro name more more' filled letters heq
    obtain ⟨c, cs, rfl⟩ := List.exists_cons_of_ne_nil filled
    obtain ⟨rfl, -⟩ := List.cons.inj heq
    exact absurd (letters '[' (by simp)) (by decide)
  cases p with
  | bracketed name filled inside =>
    cases p' with
    | bracketed name' filled' inside' =>
      exact bracketed_unique inside inside' (by simpa [TablePart.text] using h)
    | bare name' filled' letters' => exact absurd h.symm (hopen filled' letters')
  | bare name filled letters =>
    cases p' with
    | bracketed name' filled' inside' => exact absurd h (hopen filled letters)
    | bare name' filled' letters' =>
      have hdrop := congrArg (List.dropWhile isBareNameChar) h
      rwa [TablePart.text, TablePart.text, dropWhile_append_outside letters ht,
        dropWhile_append_outside letters' ht'] at hdrop

def qualifiedBy (q : TablePart × Dot) : List Char := q.1.text ++ q.2.text

theorem starts_ink_qualified (qualifiers : List (TablePart × Dot)) (p : TablePart)
    (rest : List Char) :
    StartsOutside isBlank (qualifiers.flatMap qualifiedBy ++ (p.text ++ rest)) := by
  cases qualifiers with
  | nil => exact p.starts_ink rest
  | cons q qualifiers =>
    rw [List.flatMap_cons, qualifiedBy, List.append_assoc, List.append_assoc]
    exact q.1.starts_ink _

def tablePart : Pattern := alt bracketedTable bareName

def qualifier : Pattern := sequence [tablePart, blanks0, letter '.', blanks0]

variable {c d : Cursor}

theorem spans_of_mem_tablePart (hd : d ∈ ends tablePart c) :
    ∃ p : TablePart, c.Spans p.text d := by
  rw [tablePart, ends, List.mem_append] at hd
  rcases hd with hd | hd
  · simp only [bracketedTable, sequence_cons, sequence_nil, mem_ends_seq, mem_ends_empty,
      mem_ends_mark (show IsMark '[' by decide), mem_ends_mark (show IsMark ']' by decide)] at hd
    obtain ⟨m, hopen, e, hinside, d, hclose, rfl⟩ := hd
    obtain ⟨x, t, hx, ht, hspan⟩ := mem_ends_run1.mp hinside
    exact ⟨.bracketed (x :: t) (by simp) (by simpa using ⟨by simpa using hx, by simpa using ht⟩),
      hopen.append (hspan.append hclose)⟩
  · obtain ⟨x, t, hx, ht, hspan⟩ := mem_ends_run1.mp hd
    exact ⟨.bare (x :: t) (by simp) (by simpa using ⟨hx, ht⟩), hspan⟩

theorem head?_ends_bracketed {name : List Char} (filled : name ≠ [])
    (inside : ∀ c ∈ name, (c != ']') = true) (h : c.Spans ('[' :: (name ++ [']'])) d) :
    (ends bracketedTable c).head? = some d := by
  obtain ⟨m, hopen, hmore⟩ := Cursor.spans_cons.mp h
  obtain ⟨e, hinside, hclose⟩ := Cursor.spans_append.mp hmore
  have hstop : StartsOutside (· != ']') e.rest := by
    rw [hclose.rest, List.singleton_append, startsOutside_cons]
    decide
  have hempty : (ends (sequence []) d).head? = some d := rfl
  exact head?_ends_seq (head?_ends_mark hopen) (head?_ends_seq
    (head?_ends_run1_spans filled inside hinside hstop)
    (head?_ends_seq (head?_ends_mark hclose) hempty))

theorem ends_bracketed_of_not {x : Char} {xs : List Char} (hc : c.rest = x :: xs) (hx : x ≠ '[') :
    ends bracketedTable c = [] := by
  rw [List.eq_nil_iff_forall_not_mem]
  intro e he
  simp only [bracketedTable, sequence_cons, mem_ends_seq,
    mem_ends_mark (show IsMark '[' by decide)] at he
  obtain ⟨m, hopen, -⟩ := he
  exact hx (List.cons.inj (hopen.rest.symm.trans hc)).1.symm

theorem head?_ends_tablePart {p : TablePart} (h : c.Spans p.text d)
    (hd : StartsOutside isBareNameChar d.rest) : (ends tablePart c).head? = some d := by
  cases p with
  | bracketed name filled inside => exact head?_ends_left (head?_ends_bracketed filled inside h)
  | bare name filled letters =>
    obtain ⟨x, xs, rfl⟩ := List.exists_cons_of_ne_nil filled
    have hx : x ≠ '[' := by
      rintro rfl
      exact absurd (letters '[' (by simp)) (by decide)
    exact head?_ends_right (ends_bracketed_of_not h.rest hx)
      (head?_ends_run1_spans filled letters h hd)

theorem head?_ends_qualifier {p : TablePart} {dot : Dot} (h : c.Spans (p.text ++ dot.text) d)
    (hd : StartsOutside isBlank d.rest) : (ends qualifier c).head? = some d := by
  obtain ⟨m, hpart, hdot⟩ := Cursor.spans_append.mp h
  have hm : StartsOutside isBareNameChar m.rest := hdot.rest ▸ dot.outside d.rest
  obtain ⟨e, hbefore, hmore⟩ := Cursor.spans_append.mp hdot
  obtain ⟨f, hmark, hafter⟩ := Cursor.spans_cons.mp hmore
  have he : StartsOutside isBlank e.rest := by
    rw [hmore.rest, List.cons_append, startsOutside_cons]
    decide
  have hempty : (ends (sequence []) d).head? = some d := rfl
  exact head?_ends_seq (head?_ends_tablePart hpart hm) (head?_ends_seq
    (head?_ends_run0_spans dot.blank_before hbefore he) (head?_ends_seq (head?_ends_mark hmark)
      (head?_ends_seq (head?_ends_run0_spans dot.blank_after hafter hd) hempty)))

theorem spans_of_mem_qualifier (hd : d ∈ ends qualifier c) :
    ∃ (p : TablePart) (dot : Dot), c.Spans (p.text ++ dot.text) d := by
  simp only [qualifier, sequence_cons, sequence_nil, mem_ends_seq, mem_ends_empty, blanks0,
    mem_ends_run0, mem_ends_mark (show IsMark '.' by decide)] at hd
  obtain ⟨m, hpart, e, ⟨before, hbefore, hspan⟩, f, hmark, d, ⟨after, hafter, hspan'⟩, rfl⟩ := hd
  obtain ⟨p, hp⟩ := spans_of_mem_tablePart hpart
  exact ⟨p, ⟨before, after, hbefore, hafter⟩, hp.append (hspan.append (hmark.append hspan'))⟩

section

variable {α : Type} {k : Cursor → Option α}

def Needs (k : Cursor → Option α) : Prop := ∀ c, ¬ Begins c.rest → k c = none

theorem manyRun_of_not_begins (hk : Needs k) {β : Type} (budget : List β)
    (hc : ¬ Begins c.rest) : manyRun (run qualifier) budget c k = none := by
  rw [manyRun_of_none, hk c hc]
  refine .inr fun d hd => ?_
  obtain ⟨p, dot, hspan⟩ := spans_of_mem_qualifier hd
  refine absurd ⟨p, dot.text ++ d.rest, ?_⟩ hc
  rw [hspan.rest, List.append_assoc]

/-- Qualifying parts are passed over until one of them has no dot and part behind it. -/
theorem manyRun_qualifiers (hk : Needs k) {β : Type} {budget : List β}
    {qualifiers : List (TablePart × Dot)} {p : TablePart} {rest : List Char} {r : α}
    (hlength : qualifiers.length ≤ budget.length)
    (hspan : c.Spans (qualifiers.flatMap qualifiedBy) d)
    (hd : d.rest = p.text ++ rest) (hrest : StartsOutside isBareNameChar rest)
    (hlast : budget.length = qualifiers.length ∨ ¬ GoesOn rest) (hr : k d = some r) :
    manyRun (run qualifier) budget c k = some r := by
  induction qualifiers generalizing c budget with
  | nil =>
    obtain rfl := Cursor.spans_nil.mp hspan
    rw [manyRun_of_none, hr]
    refine hlast.imp List.eq_nil_of_length_eq_zero fun hstop e he => ?_
    obtain ⟨p', dot, hspan'⟩ := spans_of_mem_qualifier he
    have htexts : p.text ++ rest = p'.text ++ (dot.text ++ e.rest) := by
      rw [← hd, hspan'.rest, List.append_assoc]
    have hsame : rest = dot.text ++ e.rest := TablePart.unique htexts hrest (dot.outside e.rest)
    exact manyRun_of_not_begins hk _ fun hbegins => hstop ⟨dot, e.rest, hsame, hbegins⟩
  | cons q qualifiers ih =>
    obtain ⟨b, budget, rfl⟩ : ∃ b bs, budget = b :: bs := by
      apply List.exists_cons_of_ne_nil
      rintro rfl
      simp at hlength
    rw [List.flatMap_cons] at hspan
    obtain ⟨e, hfirst, hmore⟩ := Cursor.spans_append.mp hspan
    have hink : StartsOutside isBlank e.rest := by
      rw [hmore.rest, hd]
      exact starts_ink_qualified qualifiers p rest
    have hlast' : budget.length = qualifiers.length ∨ ¬ GoesOn rest :=
      hlast.imp_left fun h => by simpa using h
    exact manyRun_of_head? (head?_ends_qualifier hfirst hink)
      (ih (by simpa using hlength) hmore hlast')

end

/-- A place where a table is found begins with the word that leads to it. -/
theorem keyword_of_cuts {ds : List Cursor} (h : cuts tableParts c = some ds) :
    ∃ w ∈ ["FROM", "JOIN"], w.toList.map folded <+: c.rest.map folded := by
  obtain ⟨d, -, -, hd, -⟩ := cuts_cons h
  simp only [tableOpening, sequence_cons, mem_ends_seq] at hd
  obtain ⟨m, hboundary, e, hword, -⟩ := hd
  obtain ⟨-, rfl⟩ := mem_ends_boundary.mp hboundary
  have hword : e ∈ ends (word "FROM") m ++ ends (word "JOIN") m := hword
  rcases List.mem_append.mp hword with hword | hword <;>
    obtain ⟨t, ht, hspan⟩ := mem_ends_word.mp hword
  · exact ⟨"FROM", by simp, by rw [← ht, hspan.rest, List.map_append]; exact List.prefix_append _ _⟩
  · exact ⟨"JOIN", by simp, by rw [← ht, hspan.rest, List.map_append]; exact List.prefix_append _ _⟩

theorem needs_tablePart : Needs fun d => (cuts [tablePart] d).map (d :: ·) := by
  intro c hc
  have hnone : cuts [tablePart] c = none := by
    refine run_eq_none fun d hd => ?_
    obtain ⟨p, hspan⟩ := spans_of_mem_tablePart hd
    exact absurd ⟨p, d.rest, hspan.rest⟩ hc
  change (cuts [tablePart] c).map (c :: ·) = none
  rw [hnone, Option.map_none]

/-- After the word that leads to a table the last part of the reference is taken for its name. -/
theorem hitAt?_reference {qualifiers : List (TablePart × Dot)} {p : TablePart} {rest : List Char}
    (hlength : qualifiers.length ≤ 3) (hlast : c.last = some ' ')
    (hc : c.rest = "FROM".toList ++ ([' '] ++
      (qualifiers.flatMap qualifiedBy ++ (p.text ++ rest))))
    (hrest : StartsOutside isBareNameChar rest) (hstop : qualifiers.length = 3 ∨ ¬ GoesOn rest) :
    ∃ h, hitAt? tableParts c = some h ∧ h.part 1 = p.text ∧ h.stop.rest = rest := by
  obtain ⟨f, hf, hspan⟩ : ∃ f : Cursor, f.rest = rest ∧ c.Spans ("FROM".toList ++ ([' '] ++
      (qualifiers.flatMap qualifiedBy ++ p.text))) f :=
    ⟨⟨_, rest⟩, rfl, by simpa using hc, rfl⟩
  obtain ⟨m, hword, hspan⟩ := Cursor.spans_append.mp hspan
  obtain ⟨e, hblank, hspan⟩ := Cursor.spans_append.mp hspan
  obtain ⟨d, hqualifiers, hpart⟩ := Cursor.spans_append.mp hspan
  have hboundary : (ends boundary c).head? = some c := by
    have hat : atBoundary c = true := by
      have hhead : c.rest.head? = some 'F' := by
        rw [hc]
        rfl
      rw [atBoundary, hlast, hhead]
      decide
    rw [ends, if_pos hat, List.head?_cons]
  have hfrom : (ends (choice [word "FROM", word "JOIN"]) c).head? = some m :=
    head?_ends_left (by rw [word, ends_letters rfl hword]; rfl)
  have hblanks : (ends blanks1 m).head? = some e := by
    refine head?_ends_run1_spans (by simp) (by decide) hblank ?_
    rw [hspan.rest, List.append_assoc]
    exact starts_ink_qualified qualifiers p f.rest
  have hpart' : (cuts [tablePart] d).map (d :: ·) = some [d, f] := by
    have hcuts : cuts [tablePart] d = some [f] :=
      run_of_head? (head?_ends_tablePart hpart (hf ▸ hrest)) rfl
    rw [hcuts, Option.map_some]
  have hmany : manyRun (run qualifier) (List.replicate 3 ()) e
      (fun d => (cuts [tablePart] d).map (d :: ·)) = some [d, f] :=
    manyRun_qualifiers needs_tablePart hlength hqualifiers (hf ▸ hpart.rest) hrest
      (hstop.imp_left Eq.symm) hpart'
  have hcuts : cuts tableParts c = some [d, f] := by
    change run boundary c (fun c => run (choice [word "FROM", word "JOIN"]) c fun m =>
      run blanks1 m fun e => manyRun (run qualifier) (List.replicate 3 ()) e fun d =>
        (cuts [tablePart] d).map (d :: ·)) = some [d, f]
    exact run_of_head? hboundary (run_of_head? hfrom (run_of_head? hblanks hmany))
  exact ⟨⟨c, [d, f]⟩, by rw [hitAt?, hcuts]; rfl, hpart.upTo, hf⟩

structure Reference where
  qualifiers : List (Option TablePart × Dot)
  table : TablePart
  short : qualifiers.length ≤ 3
  begun : ∀ q ∈ qualifiers.head?, q.1.isSome = true

def qualifierText (q : Option TablePart × Dot) : List Char :=
  (q.1.map TablePart.text).getD [] ++ q.2.text

def Reference.text (r : Reference) : List Char := r.qualifiers.flatMap qualifierText ++ r.table.text

def selectFrom (reference rest : List Char) : String :=
  "SELECT 1 FROM " ++ String.ofList (reference ++ rest)

theorem toList_selectFrom (reference rest : List Char) :
    (selectFrom reference rest).toList =
      "SELECT 1 ".toList ++ ("FROM".toList ++ ([' '] ++ (reference ++ rest))) := by
  have hlead : "SELECT 1 FROM ".toList = "SELECT 1 ".toList ++ ("FROM".toList ++ [' ']) := by
    decide
  delta selectFrom
  rw [String.toList_append, hlead, String.toList_ofList (l := reference ++ rest),
    List.append_assoc, List.append_assoc]

def Mentions (text : List Char) (w : String) : Prop := w.toList.map folded <:+: text.map folded

theorem hitsOf_of_not_mentions {rest : List Char} (h : ∀ w ∈ ["FROM", "JOIN"], ¬ Mentions rest w)
    (hc : c.rest = rest) : hitsOf tableParts c = [] := by
  refine hitsOf_eq_nil fun d t hspan => ?_
  cases hcuts : cuts tableParts d with
  | none => rfl
  | some ds =>
    obtain ⟨w, hw, hprefix⟩ := keyword_of_cuts hcuts
    refine absurd ?_ (h w hw)
    rw [Mentions, ← hc, hspan.rest, List.map_append]
    exact hprefix.isInfix.trans (List.suffix_append _ _).isInfix

/-- No table is found at a character that begins neither of the words that lead to one. -/
theorem cuts_of_not_initial {x : Char} {xs : List Char} (hx : folded x ∉ ['f', 'j'])
    (hc : c.rest = x :: xs) : cuts tableParts c = none := by
  cases hcuts : cuts tableParts c with
  | none => rfl
  | some ds =>
    obtain ⟨w, hw, hprefix⟩ := keyword_of_cuts hcuts
    have hinitial : ∀ w ∈ ["FROM", "JOIN"], (w.toList.map folded).head?.any (· ∈ ['f', 'j']) := by
      decide
    rw [hc, List.map_cons] at hprefix
    have hhead := hinitial w hw
    cases hfolded : w.toList.map folded with
    | nil => simp [hfolded] at hhead
    | cons y ys =>
      rw [hfolded] at hprefix hhead
      obtain ⟨rfl, -⟩ := List.cons_prefix_cons.mp hprefix
      exact absurd (by simpa using hhead) hx

/-- The hits in a query that selects from a reference without gaps. -/
theorem findAll_reference {qualifiers : List (TablePart × Dot)} {p : TablePart} {rest : List Char}
    (hlength : qualifiers.length ≤ 3) (hrest : StartsOutside isBareNameChar rest)
    (hstop : qualifiers.length = 3 ∨ ¬ GoesOn rest) :
    ∃ h, findAll tableParts (selectFrom (qualifiers.flatMap qualifiedBy ++ p.text) rest).toList =
      h :: hitsOf tableParts h.stop ∧ h.part 1 = p.text ∧ h.stop.rest = rest := by
  rw [toList_selectFrom, List.append_assoc, findAll_eq]
  generalize hbody : "FROM".toList ++ ([' '] ++
    (qualifiers.flatMap qualifiedBy ++ (p.text ++ rest))) = body
  have hspan : (Cursor.ofText ("SELECT 1 ".toList ++ body)).Spans "SELECT 1 ".toList
      ⟨some ' ', body⟩ := ⟨rfl, rfl⟩
  obtain ⟨h, hhit, hpart, hstop⟩ := hitAt?_reference (c := ⟨some ' ', body⟩) hlength rfl hbody.symm
    hrest hstop
  have hshort : h.stop.rest.length < body.length := by
    rw [hstop, ← hbody]
    simp
    omega
  rw [hitsOf_skip (P := fun x => folded x ∉ ['f', 'j'])
    (fun c x xs hx hc => cuts_of_not_initial hx hc) (by decide) hspan, hitsOf_hit hhit hshort]
  exact ⟨h, rfl, hpart, hstop⟩

theorem head?_foldl_new {names : List (List Char)} {name : List Char} (h : names.head? = some name)
    (others : List (List Char)) :
    (others.foldl (fun names name => if name ∈ names then names else names ++ [name]) names).head? =
      some name := by
  induction others generalizing names with
  | nil => exact h
  | cons other others ih =>
    rw [List.foldl_cons]
    apply ih
    split
    · exact h
    · rw [List.head?_append, h, Option.some_or]

/-- The tables of a reference without gaps, and of what comes after it. -/
theorem tablesOf_qualified {qualifiers : List (TablePart × Dot)} {p : TablePart} {rest : List Char}
    (hlength : qualifiers.length ≤ 3) (hrest : StartsOutside isBareNameChar rest)
    (hstop : qualifiers.length = 3 ∨ ¬ GoesOn rest) :
    (tablesOf (selectFrom (qualifiers.flatMap qualifiedBy ++ p.text) rest)).head? =
        some (String.ofList p.name) ∧
      ((∀ w ∈ ["FROM", "JOIN"], ¬ Mentions rest w) →
        tablesOf (selectFrom (qualifiers.flatMap qualifiedBy ++ p.text) rest) =
          [String.ofList p.name]) := by
  obtain ⟨h, hfind, hpart, hafter⟩ := findAll_reference (p := p) hlength hrest hstop
  rw [tablesOf, tableNames, hfind, List.map_cons, hpart, p.bareTable_text, List.foldl_cons]
  constructor
  · have hfirst : [p.name].head? = some p.name := rfl
    rw [List.head?_map]
    exact congrArg (Option.map String.ofList) (head?_foldl_new hfirst _)
  · intro hfree
    rw [hitsOf_of_not_mentions hfree hafter]
    rfl

theorem goesOn_gap (dot dot' : Dot) (more : List Char) :
    ¬ GoesOn (dot.text ++ (dot'.text ++ more)) := by
  rw [goesOn_iff]
  rintro ⟨cs, htext, hbegins⟩
  rw [dot.dropWhile_text] at htext
  obtain ⟨-, rfl⟩ := List.cons.inj htext
  rw [List.dropWhile_append_of_pos dot.blank_after, dot'.dropWhile_text] at hbegins
  exact not_begins_dot _ hbegins

/-- Qualifying parts that are all there. -/
theorem exists_qualifiers {qs : List (Option TablePart × Dot)} (h : ∀ q ∈ qs, q.1.isSome = true) :
    ∃ qualifiers : List (TablePart × Dot), qualifiers.length = qs.length ∧
      qs.flatMap qualifierText = qualifiers.flatMap qualifiedBy := by
  induction qs with
  | nil => exact ⟨[], rfl, rfl⟩
  | cons q qs ih =>
    obtain ⟨qualifiers, hlength, htext⟩ := ih fun q hq => h q (by simp [hq])
    obtain ⟨p, hp⟩ := Option.isSome_iff_exists.mp (h q (by simp))
    refine ⟨(p, q.2) :: qualifiers, by simp [hlength], ?_⟩
    rw [List.flatMap_cons, List.flatMap_cons, htext, qualifierText, hp]
    rfl

/-- In front of the first gap there is a part. -/
theorem exists_gap {qs : List (Option TablePart × Dot)} (hbegun : ∀ q ∈ qs.head?, q.1.isSome = true)
    (hgap : ∃ q ∈ qs, q.1 = none) :
    ∃ before p dot dot' others, (∀ q ∈ before, q.1.isSome = true) ∧
      qs = before ++ (some p, dot) :: (none, dot') :: others := by
  induction qs with
  | nil => simp at hgap
  | cons q qs ih =>
    obtain ⟨part, dot⟩ := q
    obtain ⟨p, rfl⟩ := Option.isSome_iff_exists.mp (hbegun _ rfl)
    have hgap' : ∃ q ∈ qs, q.1 = none := by simpa using hgap
    cases qs with
    | nil => simp at hgap'
    | cons q' qs =>
      obtain ⟨part', dot'⟩ := q'
      cases part' with
      | none => exact ⟨[], p, dot, dot', qs, by simp, rfl⟩
      | some p' =>
        obtain ⟨before, p', d, d', others, hpresent, heq⟩ := ih (by simp) hgap'
        refine ⟨(some p, dot) :: before, p', d, d', others, by simpa using hpresent, ?_⟩
        rw [heq]
        rfl

/-- A reference without gaps names the table that its last part says, and no other one if the text
behind it does not go on with the reference and has neither of the words that lead to a table. In
a reference with a gap the part in front of the first gap is taken for the name of the table. -/
theorem tablesOf_reference (r : Reference) (rest : List Char) :
    ((∀ q ∈ r.qualifiers, q.1.isSome = true) → StartsOutside isBareNameChar rest →
      (r.qualifiers.length = 3 ∨ ¬ GoesOn rest) → (∀ w ∈ ["FROM", "JOIN"], ¬ Mentions rest w) →
        tablesOf (selectFrom r.text rest) = [String.ofList r.table.name]) ∧
    ((∃ q ∈ r.qualifiers, q.1 = none) → ∃ before p dot dot' others,
      (∀ q ∈ before, q.1.isSome = true) ∧
      r.qualifiers = before ++ (some p, dot) :: (none, dot') :: others ∧
      (tablesOf (selectFrom r.text rest)).head? = some (String.ofList p.name)) := by
  constructor
  · intro hpresent hrest hstop hfree
    obtain ⟨qualifiers, hlength, htext⟩ := exists_qualifiers hpresent
    rw [Reference.text, htext]
    exact (tablesOf_qualified (hlength ▸ r.short) hrest (hlength ▸ hstop)).2 hfree
  · intro hgap
    obtain ⟨before, p, dot, dot', others, hpresent, heq⟩ := exists_gap r.begun hgap
    obtain ⟨qualifiers, hlength, htext⟩ := exists_qualifiers hpresent
    -- Up to the gap this is a reference without gaps, and it does not go on behind that.
    have hcut : selectFrom r.text rest = selectFrom (qualifiers.flatMap qualifiedBy ++ p.text)
        (dot.text ++ (dot'.text ++ (others.flatMap qualifierText ++ (r.table.text ++ rest)))) := by
      simp only [selectFrom, Reference.text, heq, List.flatMap_append, List.flatMap_cons, htext,
        qualifierText, Option.map_some, Option.map_none, Option.getD_some, Option.getD_none,
        List.nil_append, List.append_assoc]
    have hshort : qualifiers.length ≤ 3 := by
      have := r.short
      simp only [heq, List.length_append, List.length_cons] at this
      omega
    refine ⟨before, p, dot, dot', others, hpresent, heq, ?_⟩
    rw [hcut]
    exact (tablesOf_qualified hshort (dot.outside _) (.inr (goesOn_gap dot dot' _))).1

def spacedDot : Dot := ⟨[' '], [' '], by decide, by decide⟩

def bareDot : Dot := ⟨[], [], by decide, by decide⟩

def orderDetails : Reference where
  qualifiers := [(some (.bare "Sales".toList (by decide) (by decide)), spacedDot),
    (some (.bracketed "dbo.x".toList (by decide) (by decide)), bareDot)]
  table := .bracketed "Order Details".toList (by decide) (by decide)
  short := by decide
  begun := by simp

theorem last_part_is_table :
    orderDetails.text = "Sales . [dbo.x].[Order Details]".toList ∧
      tablesOf (selectFrom orderDetails.text " WHERE Price > .5".toList) = ["Order Details"] := by
  have hstop : ¬ GoesOn " WHERE Price > .5".toList := by
    rw [goesOn_iff]
    rintro ⟨cs, htext, -⟩
    have hhead : (" WHERE Price > .5".toList.dropWhile isBlank).head? = some 'W' := by decide
    rw [htext] at hhead
    exact absurd hhead (by simp)
  have hfree : ∀ w ∈ ["FROM", "JOIN"], ¬ Mentions " WHERE Price > .5".toList w := by
    unfold Mentions
    decide +kernel
  refine ⟨by decide, ?_⟩
  exact (tablesOf_reference orderDetails _).1 (by decide) (by decide) (.inr hstop) hfree

def salesOrders : Reference where
  qualifiers := [(some (.bare "Sales".toList (by decide) (by decide)), bareDot), (none, bareDot)]
  table := .bare "Orders".toList (by decide) (by decide)
  short := by decide
  begun := by simp

/-- Where the schema is left out the database is taken for the table. -/
theorem database_is_taken_for_table :
    selectFrom salesOrders.text [] = "SELECT 1 FROM Sales..Orders" ∧
      tablesOf (selectFrom salesOrders.text []) = ["Sales"] ∧
      tablesOf (selectFrom salesOrders.text []) ≠ [String.ofList salesOrders.table.name] := by
  decide +kernel

end QueryTuning.Query
