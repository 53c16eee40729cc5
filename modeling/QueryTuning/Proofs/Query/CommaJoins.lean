import QueryTuning.Proofs.Pattern.Choices
import QueryTuning.Proofs.Query.Identifiers
import QueryTuning.Proofs.Query.Issues
import QueryTuning.Proofs.Query.TableReferences

/-!
# Tables listed with a comma

A reference to a table is taken as a whole, with its alias, where an end, a comma or a keyword
comes behind it: a keyword is no alias, and an alias that begins like one goes on. Two references
with a comma between them are then a comma join, unless an explicit join comes behind them.
-/

set_option autoImplicit false

namespace QueryTuning.Query

open Pattern Text

variable {c d m : Cursor} {rest : List Char}

def opensPlainName (c : Char) : Bool := isAsciiLetterOrUnderscore c || c == '#' || c == '@'

def continuesPlainName (c : Char) : Bool := isPlainNameChar c || c == '$' || c == '#'

inductive NamePart where
  | bracketed (name : List Char) (filled : name ≠ []) (inside : ∀ c ∈ name, (c != ']') = true)
  | plain (first : Char) (more : List Char) (initial : opensPlainName first = true)
      (others : ∀ c ∈ more, continuesPlainName c = true)

def NamePart.text : NamePart → List Char
  | bracketed name _ _ => '[' :: (name ++ [']'])
  | plain first more _ _ => first :: more

def NamePart.dotted (p : NamePart) : List Char := '.' :: p.text

structure TableAlias where
  marked : Bool
  name : Identifier
  free : ∀ w ∈ "AS" :: clauseKeywords, ¬ Reads w.toList name.text

def TableAlias.mark (a : TableAlias) : List Char := if a.marked then "AS".toList ++ [' '] else []

def TableAlias.text (a : TableAlias) : List Char := ' ' :: (a.mark ++ a.name.text)

structure ListedTable where
  name : NamePart
  others : List NamePart
  short : others.length ≤ 3
  alias? : Option TableAlias

namespace ListedTable

def fullName (r : ListedTable) : List Char := r.name.text ++ r.others.flatMap NamePart.dotted

def text (r : ListedTable) : List Char := r.fullName ++ (r.alias?.map TableAlias.text).getD []

end ListedTable

def Apart (rest : List Char) : Prop := ∀ x, rest.head? = some x → x ∈ [',', ' ']

theorem apart_cons {x : Char} {xs : List Char} (hx : x ∈ [',', ' ']) : Apart (x :: xs) := by
  intro y hy
  obtain rfl : x = y := by simpa using hy
  exact hx

theorem Apart.outside {p : Char → Bool} (h : Apart rest) (hp : ∀ x ∈ [',', ' '], p x = false) :
    StartsOutside p rest := fun x hx => hp x (h x hx)

def inPlainName (c : Char) : Bool := isWord c || c == '$' || c == '#'

theorem opens_of_initial {x : Char} (hx : opensPlainName x = true) :
    (isLetterOrUnderscore x || x == '#' || x == '@') = true := by
  simp only [opensPlainName, Bool.or_eq_true] at hx ⊢
  exact hx.imp_left (Or.imp_left isLetterOrUnderscore_of_initial)

theorem inPlainName_of_continues {x : Char} (hx : continuesPlainName x = true) :
    inPlainName x = true := by
  simp only [continuesPlainName, inPlainName, Bool.or_eq_true] at hx ⊢
  exact hx.imp_left (Or.imp_left isWord_of_plain)

theorem NamePart.starts_ink (p : NamePart) (more : List Char) :
    StartsOutside isBlank (p.text ++ more) := by
  cases p with
  | bracketed name filled inside => exact startsOutside_cons.mpr (by decide)
  | plain first others initial continues =>
    refine startsOutside_cons.mpr ?_
    simp only [opensPlainName, Bool.or_eq_true, beq_iff_eq] at initial
    rcases initial with (initial | rfl) | rfl
    · exact isBlank_of_isWord (isWord_of_plain (isPlainNameChar_of_initial initial))
    · decide
    · decide

theorem head?_ends_namePart {p : NamePart} (h : c.Spans p.text d)
    (hd : StartsOutside inPlainName d.rest) : (ends namePart c).head? = some d := by
  cases p with
  | bracketed name filled inside => exact head?_ends_left (head?_ends_bracketed filled inside h)
  | plain first others initial continues =>
    obtain ⟨m, hfirst, hothers⟩ := Cursor.spans_cons.mp h
    have hopen : first ≠ '[' := by
      rintro rfl
      exact absurd initial (by decide)
    exact head?_ends_right (ends_bracketed_of_not h.rest hopen)
      (head?_ends_seq (head?_ends_one (opens_of_initial initial) hfirst)
        (head?_ends_run0_spans (fun x hx => inPlainName_of_continues (continues x hx)) hothers hd))

theorem outside_dotted {ps : List NamePart} (hrest : Apart rest) :
    StartsOutside inPlainName (ps.flatMap NamePart.dotted ++ rest) := by
  cases ps with
  | nil => exact hrest.outside (by decide)
  | cons p ps => exact startsOutside_cons.mpr (by decide)

theorem head?_manyEnds_dotted {ps : List NamePart} {β : Type} {budget : List β}
    (hlength : ps.length ≤ budget.length) (h : c.Spans (ps.flatMap NamePart.dotted) d)
    (hd : Apart d.rest) :
    (manyEnds (ends (seq (letter '.') namePart)) budget c).head? = some d := by
  induction ps generalizing c budget with
  | nil =>
    obtain rfl := Cursor.spans_nil.mp h
    have hdot : opensOutside [',', ' '] (seq (letter '.') namePart) = true := by decide +kernel
    exact head?_manyEnds_stop (ends_of_opens rfl hdot hd)
  | cons p ps ih =>
    obtain ⟨b, budget, rfl⟩ : ∃ b bs, budget = b :: bs := by
      apply List.exists_cons_of_ne_nil
      rintro rfl
      simp at hlength
    rw [List.flatMap_cons] at h
    obtain ⟨e, hpart, hmore⟩ := Cursor.spans_append.mp h
    obtain ⟨m, hdot, hpart⟩ := Cursor.spans_cons.mp hpart
    have he : StartsOutside inPlainName e.rest := hmore.rest ▸ outside_dotted hd
    exact head?_manyEnds_cons
      (head?_ends_seq (head?_ends_mark hdot) (head?_ends_namePart hpart he))
      (ih (by simpa using hlength) hmore)

theorem head?_ends_qualifiedName {r : ListedTable} (h : c.Spans r.fullName d) (hd : Apart d.rest) :
    (ends qualifiedName c).head? = some d := by
  obtain ⟨m, hname, hothers⟩ := Cursor.spans_append.mp h
  have hm : StartsOutside inPlainName m.rest := hothers.rest ▸ outside_dotted hd
  have hmany : (ends (many (some 3) (seq (letter '.') namePart)) m).head? = some d := by
    rw [ends]
    exact head?_manyEnds_dotted r.short hothers hd
  exact head?_ends_seq (head?_ends_namePart hname hm) hmany

theorem isWord_of_keyword : ∀ w ∈ "AS" :: clauseKeywords, ∀ x ∈ w.toList, isWord x = true := by
  decide +kernel

theorem keyword_ne_nil : ∀ w ∈ "AS" :: clauseKeywords, w.toList ≠ [] := by decide

/-- A word that a name does not read is found where the name begins only as a part of it. -/
theorem not_outside_of_name {name : Identifier} {w : String} {e : Cursor}
    (hw : w ∈ "AS" :: clauseKeywords) (hfree : ¬ Reads w.toList name.text)
    (hc : c.rest = name.text ++ rest) (hrest : Apart rest) (he : e ∈ ends (word w) c) :
    ¬ StartsOutside isWord e.rest := fun hend =>
  hfree (folded_eq_of_mem_ends_word (isWord_of_keyword w hw) he hend hc name.isWord_text
    (hrest.outside (by decide))).1

theorem ends_keyword_of_name {name : Identifier}
    (hfree : ∀ w ∈ "AS" :: clauseKeywords, ¬ Reads w.toList name.text)
    (hc : c.rest = name.text ++ rest) (hrest : Apart rest) :
    ends (seq (choice (clauseKeywords.map word)) boundary) c = [] := by
  refine ends_seq_of_right fun e he => ?_
  obtain ⟨w, hw, he⟩ := mem_ends_choice_words.mp he
  have hkeyword := List.mem_cons_of_mem "AS" hw
  rw [List.eq_nil_iff_forall_not_mem]
  intro f hf
  exact not_outside_of_name hkeyword (hfree w hkeyword) hc hrest he (startsOutside_of_boundary
    (isWord_of_keyword w hkeyword) (keyword_ne_nil w hkeyword) he (mem_ends_boundary.mp hf).1)

theorem ends_mark_of_name {name : Identifier} (hfree : ¬ Reads "AS".toList name.text)
    (hc : c.rest = name.text ++ rest) (hrest : Apart rest) :
    ends (seq (word "AS") blanks1) c = [] := by
  refine ends_seq_of_right fun e he => ?_
  rw [List.eq_nil_iff_forall_not_mem]
  intro f hf
  obtain ⟨x, t, hx, -, hspan⟩ := mem_ends_run1.mp hf
  refine not_outside_of_name (by simp) hfree hc hrest he ?_
  rw [hspan.rest, List.cons_append, startsOutside_cons]
  exact isWord_of_isBlank hx

theorem head?_ends_tableAlias {a : TableAlias} (h : c.Spans a.text d) (hd : Apart d.rest) :
    (ends tableAlias c).head? = some d := by
  obtain ⟨m, hblank, hmore⟩ := Cursor.spans_cons.mp h
  obtain ⟨e, hmark, hname⟩ := Cursor.spans_append.mp hmore
  obtain ⟨f, hfirst, hothers⟩ := Cursor.spans_cons.mp hname
  have hrest : e.rest = a.name.text ++ d.rest := hname.rest
  have he : StartsOutside isBlank e.rest :=
    hrest ▸ starts_ink_of_word a.name.isWord_text a.name.text_ne_nil
  have hm : StartsOutside isBlank m.rest := by
    rw [hmark.rest, TableAlias.mark]
    split
    · exact startsOutside_cons.mpr (by decide)
    · exact he
  have hblanks : (ends blanks1 c).head? = some m :=
    head?_ends_run1_spans (by simp) (by decide) hblank hm
  have hoptional : (ends (optional (seq (word "AS") blanks1)) m).head? = some e := by
    rw [TableAlias.mark] at hmark
    split at hmark
    · obtain ⟨g, has, hspace⟩ := Cursor.spans_append.mp hmark
      exact head?_ends_taken (head?_ends_seq (head?_ends_word has)
        (head?_ends_run1_spans (by simp) (by decide) hspace he))
    · obtain rfl := Cursor.spans_nil.mp hmark
      exact head?_ends_skipped (ends_mark_of_name (a.free "AS" (by simp)) hrest hd)
  have hkeyword := head?_ends_notBefore (ends_keyword_of_name a.free hrest hd)
  have hletter : (ends (one isLetterOrUnderscore) e).head? = some f :=
    head?_ends_one (isLetterOrUnderscore_of_initial a.name.initial) hfirst
  have hletters : (ends (run0 isWord) f).head? = some d :=
    head?_ends_run0_spans (fun x hx => isWord_of_plain (a.name.others x hx)) hothers
      (hd.outside (by decide))
  exact head?_ends_seq hblanks (head?_ends_seq hoptional (head?_ends_seq hkeyword
    (head?_ends_seq hletter (head?_ends_seq hletters head?_ends_done))))

inductive Stops : List Char → Prop where
  | finished : Stops []
  | comma (more : List Char) : Stops (',' :: more)
  | keyword {w : String} (more : List Char) (hw : w ∈ clauseKeywords) (hhint : w ≠ "WITH") :
      Stops (' ' :: (w.toList ++ ' ' :: more))

theorem Stops.apart (h : Stops rest) : Apart rest := by
  cases h with
  | finished => exact fun x hx => by simp at hx
  | comma more => exact apart_cons (by simp)
  | keyword more hw hhint => exact apart_cons (by simp)

/-- What begins with a blank and does not go on with the keyword is not found where a reference
stops. -/
theorem Stops.ends_blanks1 {q : Pattern} (h : Stops c.rest) (hq : BeginsInk q)
    (hkeyword : ∀ {w : String} {more : List Char} {m : Cursor}, w ∈ clauseKeywords → w ≠ "WITH" →
      m.rest = w.toList ++ ' ' :: more → ends q m = []) :
    ends (seq blanks1 q) c = [] := by
  obtain ⟨last, rest⟩ := c
  cases h with
  | finished => exact ends_blanks1_of_ink startsOutside_nil
  | comma more => exact ends_blanks1_of_ink (startsOutside_cons.mpr (by decide))
  | @keyword w more hw hhint =>
    have hw' := List.mem_cons_of_mem "AS" hw
    have hafter : after isBlank ⟨last, ' ' :: (w.toList ++ ' ' :: more)⟩ =
        ⟨some ' ', w.toList ++ ' ' :: more⟩ :=
      after_of_spans (t := [' ']) (by decide) ⟨rfl, rfl⟩
        (starts_ink_of_word (isWord_of_keyword w hw') (keyword_ne_nil w hw'))
    rw [Pattern.ends_blanks1 hq, hafter]
    split
    · rfl
    · exact hkeyword hw hhint rfl

theorem Stops.no_alias (h : Stops c.rest) : ends tableAlias c = [] := by
  refine h.ends_blanks1 ⟨by decide +kernel, by decide +kernel⟩ ?_
  intro w more m hw hhint hm
  have hmark : ends (seq (word "AS") blanks1) m = [] := by
    have hapart : ∀ w ∈ clauseKeywords, ¬ "AS".toList.map folded <+: w.toList.map folded ∧
        ¬ w.toList.map folded <+: "AS".toList.map folded := by decide +kernel
    exact ends_seq_of_left (ends_word_of_apart hm (hapart w hw).1 (hapart w hw).2)
  have hkeyword : ends (notBefore (seq (choice (clauseKeywords.map word)) boundary)) m = [] := by
    have hw' := List.mem_cons_of_mem "AS" hw
    have hspan : m.Spans w.toList ⟨w.toList.getLast?.or m.last, ' ' :: more⟩ := ⟨hm, rfl⟩
    have hend := (atBoundary_behind (isWord_of_keyword w hw') (keyword_ne_nil w hw') hspan).mpr
      (startsOutside_cons.mpr (by decide))
    exact ends_notBefore_of_mem (mem_ends_seq.mpr ⟨_, mem_ends_choice_words.mpr
      ⟨w, hw, mem_ends_word.mpr ⟨_, rfl, hspan⟩⟩, mem_ends_boundary.mpr ⟨hend, rfl⟩⟩)
  refine ends_seq_of_right fun e he => ?_
  rw [Pattern.optional, ends, hmark, List.nil_append, mem_ends_empty] at he
  exact he ▸ ends_seq_of_left hkeyword

theorem Stops.no_hint (h : Stops c.rest) : ends tableHint c = [] := by
  refine h.ends_blanks1 ⟨by decide +kernel, by decide +kernel⟩ ?_
  intro w more m hw hhint hm
  have hapart : ∀ w ∈ clauseKeywords, w ≠ "WITH" →
      ¬ "WITH".toList.map folded <+: w.toList.map folded ∧
        ¬ w.toList.map folded <+: "WITH".toList.map folded := by decide +kernel
  have h := hapart w hw hhint
  exact ends_seq_of_left (ends_word_of_apart hm h.1 h.2)

theorem head?_ends_tableReference {r : ListedTable} (h : c.Spans r.text d) (hd : Stops d.rest) :
    (ends tableReference c).head? = some d := by
  obtain ⟨m, hname, halias⟩ := Cursor.spans_append.mp h
  have hhint : (ends (sequence [optional tableHint]) d).head? = some d :=
    head?_ends_seq (head?_ends_skipped hd.no_hint) rfl
  cases hr : r.alias? with
  | none =>
    obtain rfl : d = m := Cursor.spans_nil.mp (by simpa [hr] using halias)
    exact head?_ends_seq (head?_ends_qualifiedName hname hd.apart)
      (head?_ends_seq (head?_ends_skipped hd.no_alias) hhint)
  | some a =>
    have halias : m.Spans a.text d := by simpa [hr] using halias
    have hm : Apart m.rest := by
      rw [halias.rest]
      exact apart_cons (by simp)
    exact head?_ends_seq (head?_ends_qualifiedName hname hm)
      (head?_ends_seq (head?_ends_taken (head?_ends_tableAlias halias hd.apart)) hhint)

def fromList (r₁ r₂ : ListedTable) : List Char :=
  "FROM".toList ++ ([' '] ++ (r₁.text ++ ([','] ++ ([' '] ++ r₂.text))))

theorem ListedTable.starts_ink (r : ListedTable) (more : List Char) :
    StartsOutside isBlank (r.text ++ more) := by
  rw [text, fullName, List.append_assoc, List.append_assoc]
  exact r.name.starts_ink _

theorem head?_ends_commaJoin {r₁ r₂ : ListedTable} (hlast : c.last = some ' ')
    (h : c.Spans (fromList r₁ r₂) d) (hd : Stops d.rest) :
    (ends commaJoin c).head? = some d := by
  obtain ⟨m₁, hfrom, h⟩ := Cursor.spans_append.mp h
  obtain ⟨m₂, hspace₁, h⟩ := Cursor.spans_append.mp h
  obtain ⟨m₃, hfirst, h⟩ := Cursor.spans_append.mp h
  obtain ⟨m₄, hcomma, h⟩ := Cursor.spans_append.mp h
  obtain ⟨m₅, hspace₂, hsecond⟩ := Cursor.spans_append.mp h
  have hboundary : atBoundary c = true := by
    refine (atBoundary_ahead (by decide) (by decide) hfrom).mpr ?_
    rintro y hy
    obtain rfl : ' ' = y := by simpa [hlast] using hy
    decide
  have hm₂ : StartsOutside isBlank m₂.rest := hfirst.rest ▸ r₁.starts_ink _
  have hm₃ : Stops m₃.rest := by
    rw [hcomma.rest]
    exact .comma m₄.rest
  have hm₅ : StartsOutside isBlank m₅.rest := hsecond.rest ▸ r₂.starts_ink _
  have hblanks : (ends blanks0 m₃).head? = some m₃ := by
    refine head?_ends_run0_spans (t := []) (by simp) (Cursor.spans_nil.mpr rfl) ?_
    rw [hcomma.rest]
    exact startsOutside_cons.mpr (by decide)
  exact head?_ends_seq (head?_ends_boundary hboundary)
    (head?_ends_seq (head?_ends_word hfrom)
      (head?_ends_seq (head?_ends_run1_spans (by simp) (by decide) hspace₁ hm₂)
        (head?_ends_seq (head?_ends_tableReference hfirst hm₃)
          (head?_ends_seq hblanks (head?_ends_seq (head?_ends_mark hcomma)
            (head?_ends_seq (head?_ends_run0_spans (by decide) hspace₂ hm₅)
              (head?_ends_seq (head?_ends_tableReference hsecond hd) head?_ends_done)))))))

/-- A comma join begins with a whole FROM. -/
theorem from_of_mem_ends (hd : d ∈ ends commaJoin c) :
    atBoundary c = true ∧ ∃ e ∈ ends (word "FROM") c, StartsOutside isWord e.rest := by
  simp only [commaJoin, sequence_cons, mem_ends_seq] at hd
  obtain ⟨_, hboundary, e, he, f, hblanks, -⟩ := hd
  obtain ⟨hat, rfl⟩ := mem_ends_boundary.mp hboundary
  obtain ⟨x, t, hx, -, hspan⟩ := mem_ends_run1.mp hblanks
  refine ⟨hat, e, he, ?_⟩
  rw [hspan.rest]
  exact startsOutside_cons.mpr (isWord_of_isBlank hx)

theorem clearOf_words {t : List Char} (h : c.Spans t d) (hend : EndsOutside isWord t)
    (hwords : ∀ v ∈ runs isWord t, ¬ Reads "FROM".toList v) : ClearOf [commaJoin] c t := by
  rintro s x u m rfl hm
  refine cuts_single (List.eq_nil_iff_forall_not_mem.mpr fun g hg => ?_)
  obtain ⟨hat, e, he, houtside⟩ := from_of_mem_ends hg
  have hu : ∃ y ∈ x :: u, isWord y = false := by
    obtain ⟨y, hy⟩ := Option.isSome_iff_exists.mp (List.getLast?_isSome.mpr (List.cons_ne_nil x u))
    exact ⟨y, List.mem_of_getLast? hy, hend y (by rw [List.getLast?_append, hy, Option.some_or])⟩
  obtain ⟨v, hv, hreads⟩ := exists_run_of_word (by decide) (by decide) hm h hu hat he houtside
  exact hwords v hv hreads

theorem hitsOf_of_not_from (h : ¬ Mentions c.rest "FROM") : hitsOf [commaJoin] c = [] := by
  refine hitsOf_eq_nil fun m t hm => ?_
  refine cuts_single (List.eq_nil_iff_forall_not_mem.mpr fun g hg => ?_)
  obtain ⟨-, e, he, -⟩ := from_of_mem_ends hg
  obtain ⟨v, hv, hspan⟩ := mem_ends_word.mp he
  refine h ⟨t.map folded, e.rest.map folded, ?_⟩
  rw [← hv, hm.rest, hspan.rest, List.map_append, List.map_append, List.append_assoc]

def selection (c : Identifier) : List Char := "SELECT".toList ++ ' ' :: c.text ++ [' ']

theorem mem_selection (c : Identifier) : 'S' ∈ selection c := by
  have hselect : 'S' ∈ "SELECT".toList := by decide
  exact List.mem_append_left _ (List.mem_append_left _ hselect)

theorem getLast?_selection (c : Identifier) : (selection c).getLast? = some ' ' :=
  List.getLast?_concat

theorem runs_selection (c : Identifier) :
    runs isWord (selection c) = ["SELECT".toList, c.text] := by
  have hspace : isWord ' ' = false := by decide
  have hselect : runs isWord "SELECT".toList = ["SELECT".toList] :=
    runs_of_all (by decide) (by decide)
  calc runs isWord (selection c)
      = runs isWord ("SELECT".toList ++ ' ' :: c.text) ++ runs isWord [] :=
        runs_append_cons hspace _ _
    _ = runs isWord "SELECT".toList ++ runs isWord c.text := by
        rw [runs_nil, List.append_nil]
        exact runs_append_cons hspace _ _
    _ = ["SELECT".toList, c.text] := by
        rw [hselect, c.runs_text]
        rfl

def commaQuery (c : Identifier) (r₁ r₂ : ListedTable) (tail : List Char) : String :=
  String.ofList (selection c ++ (fromList r₁ r₂ ++ tail))

theorem toList_commaQuery (c : Identifier) (r₁ r₂ : ListedTable) (tail : List Char) :
    (commaQuery c r₁ r₂ tail).toList = selection c ++ (fromList r₁ r₂ ++ tail) :=
  String.toList_ofList

/-- The first comma join of the query is the list of the two tables. -/
theorem findAll_commaQuery {c : Identifier} (r₁ r₂ : ListedTable) {tail : List Char}
    (hc : ¬ Reads "FROM".toList c.text) (htail : Stops tail) :
    ∃ h, findAll [commaJoin] (commaQuery c r₁ r₂ tail).toList = h :: hitsOf [commaJoin] h.stop ∧
      h.text = fromList r₁ r₂ ∧ h.stop.rest = tail := by
  have hlead := Cursor.spans_ofText (selection c) (fromList r₁ r₂ ++ tail)
  rw [getLast?_selection] at hlead
  have hclear : ClearOf [commaJoin] (.ofText (selection c ++ (fromList r₁ r₂ ++ tail)))
      (selection c) := by
    refine clearOf_words hlead ?_ ?_
    · intro y hy
      obtain rfl : ' ' = y := by simpa [getLast?_selection] using hy
      decide
    · rw [runs_selection]
      simpa using ⟨by decide, hc⟩
  have hspan : (⟨some ' ', fromList r₁ r₂ ++ tail⟩ : Cursor).Spans (fromList r₁ r₂)
      ⟨(fromList r₁ r₂).getLast?.or (some ' '), tail⟩ := ⟨rfl, rfl⟩
  obtain ⟨h, hhit, htext, hstop⟩ := exists_hitAt? hspan (head?_ends_commaJoin rfl hspan htail)
  refine ⟨h, ?_, htext, by rw [hstop]⟩
  rw [toList_commaQuery, findAll_eq, hitsOf_clear hclear hlead, hitsOf_hit hhit]
  have hfrom : 'F' ∈ "FROM".toList := by decide
  have hmem : 'F' ∈ fromList r₁ r₂ := List.mem_append_left _ hfrom
  rw [hstop, List.length_append]
  exact Nat.lt_add_of_pos_left (List.length_pos_of_mem hmem)

inductive EndsList : List Char → Prop where
  | finished : EndsList []
  | comma (more : List Char) : EndsList (',' :: more)
  | filter (more : List Char) : EndsList (' ' :: ("WHERE".toList ++ ' ' :: more))

def joinKeywords : List String :=
  ["JOIN", "INNER JOIN", "CROSS JOIN", "LEFT JOIN", "LEFT OUTER JOIN", "RIGHT JOIN",
    "RIGHT OUTER JOIN", "FULL JOIN", "FULL OUTER JOIN"]

inductive GoesOnJoined : List Char → Prop where
  | joined {w : String} {more : List Char} (hw : w ∈ joinKeywords)
      (hfree : ¬ Mentions more "FROM") : GoesOnJoined (' ' :: (w.toList ++ ' ' :: more))

theorem EndsList.stops (h : EndsList rest) : Stops rest := by
  cases h with
  | finished => exact .finished
  | comma more => exact .comma more
  | filter more =>
    have hwhere : "WHERE" ∈ clauseKeywords := by decide
    exact .keyword more hwhere (by decide)

theorem GoesOnJoined.stops (h : GoesOnJoined rest) : Stops rest := by
  obtain ⟨hw, -⟩ := h
  next w more =>
  have hfirst : ∀ w ∈ joinKeywords, ∃ k ∈ clauseKeywords, k ≠ "WITH" ∧
      k.toList ++ [' '] <+: w.toList ++ [' '] := by decide +kernel
  obtain ⟨k, hk, hhint, u, hu⟩ := hfirst w hw
  have hrest : w.toList ++ ' ' :: more = k.toList ++ ' ' :: (u ++ more) := by
    have happend := congrArg (· ++ more) hu
    simpa using happend.symm
  rw [hrest]
  exact .keyword _ hk hhint

theorem EndsList.not_joined (h : EndsList c.rest) : matchesAt explicitJoin c = false := by
  have hhead : ∀ x, (after isBlank c).rest.head? = some x → x ∈ [',', 'W'] := by
    obtain ⟨last, rest⟩ := c
    have hinked : (rest.dropWhile isBlank).head? ∈ [none, some ',', some 'W'] := by
      cases h with
      | finished => exact .head _
      | comma more => exact .tail _ (.head _)
      | filter more => exact .tail _ (.tail _ (.head _))
    intro x hx
    have hx : (rest.dropWhile isBlank).head? = some x := hx
    simpa [hx] using hinked
  have hnone : ends explicitJoin c = [] :=
    ends_blanks0_of_opens ⟨by decide +kernel, by decide +kernel⟩ (by decide +kernel) hhead
  rw [matchesAt_eq, hnone]
  rfl

theorem GoesOnJoined.joined_here (h : GoesOnJoined c.rest) : matchesAt explicitJoin c = true := by
  obtain ⟨last, rest⟩ := c
  obtain ⟨hw, -⟩ := h
  simp only [joinKeywords, List.mem_cons, List.not_mem_nil, or_false] at hw
  rcases hw with rfl | rfl | rfl | rfl | rfl | rfl | rfl | rfl | rfl <;> rfl

theorem GoesOnJoined.no_list (h : GoesOnJoined c.rest) : hitsOf [commaJoin] c = [] := by
  obtain ⟨last, rest⟩ := c
  obtain ⟨hw, hfree⟩ := h
  next w more =>
  have hspan : (⟨last, ' ' :: (w.toList ++ ' ' :: more)⟩ : Cursor).Spans
      (' ' :: (w.toList ++ [' '])) ⟨_, more⟩ := ⟨by simp, rfl⟩
  have hwords : ∀ w ∈ joinKeywords, ∀ v ∈ runs isWord (' ' :: (w.toList ++ [' '])),
      ¬ Reads "FROM".toList v := by decide +kernel
  have hend : EndsOutside isWord (' ' :: (w.toList ++ [' '])) := by
    rw [← List.cons_append, endsOutside_append_singleton]
    decide
  rw [hitsOf_clear (clearOf_words hspan hend (hwords w hw)) hspan]
  exact hitsOf_of_not_from hfree

/-- Two references to tables with a comma between them are reported as they stand where the list
ends, goes on or is filtered, and they are not reported where an explicit join comes behind
them. -/
theorem comma_joins_are_recognised (c : Identifier) (r₁ r₂ : ListedTable) (tail : List Char)
    (hc : ¬ Reads "FROM".toList c.text)
    (hnormal : normalize (commaQuery c r₁ r₂ tail) = commaQuery c r₁ r₂ tail) :
    (EndsList tail → reported .cartesianProduct (commaQuery c r₁ r₂ tail) =
        .ok [String.ofList (fromList r₁ r₂)]) ∧
      (GoesOnJoined tail → reported .cartesianProduct (commaQuery c r₁ r₂ tail) = .ok []) := by
  have hrule : (cartesianProductRule, IssueKind.cartesianProduct) ∈ rules.zip detectedKinds := by
    simp [rules, detectedKinds]
  have hink : 'S' ∈ (commaQuery c r₁ r₂ tail).toList := by
    rw [toList_commaQuery]
    exact List.mem_append_left _ (mem_selection c)
  rw [reported_of_normal hrule hnormal ⟨'S', hink, by decide⟩]
  constructor
  · intro htail
    obtain ⟨h, hfind, htext, hstop⟩ := findAll_commaQuery r₁ r₂ hc htail.stops
    have hend : matchesAt explicitJoin h.stop = false := EndsList.not_joined (hstop ▸ htail)
    simp [cartesianProductRule, hfind, hend, htext]
  · intro htail
    obtain ⟨h, hfind, htext, hstop⟩ := findAll_commaQuery r₁ r₂ hc htail.stops
    have htail' : GoesOnJoined h.stop.rest := hstop ▸ htail
    simp [cartesianProductRule, hfind, htail'.joined_here, htail'.no_list]

def idColumn : Identifier := ⟨'i', ['d'], by decide, by decide⟩

def pastOrders : ListedTable where
  name := .plain 'S' "ales".toList (by decide) (by decide)
  others := [.bracketed "Past Orders".toList (by decide) (by decide)]
  short := by decide
  alias? := some ⟨true, ⟨'W', "ithdrawn".toList, by decide, by decide⟩, by decide +kernel⟩

def recentOrders : ListedTable where
  name := .plain '#' "recent".toList (by decide) (by decide)
  others := []
  short := by decide
  alias? := none

theorem listed_tables_are_reported :
    reported .cartesianProduct (commaQuery idColumn pastOrders recentOrders
        (' ' :: ("WHERE".toList ++ ' ' :: "id = 1".toList))) =
      .ok ["FROM Sales.[Past Orders] AS Withdrawn, #recent"] ∧
    reported .cartesianProduct (commaQuery idColumn pastOrders recentOrders
        (' ' :: ("LEFT OUTER JOIN".toList ++ ' ' :: "c ON id = c.id".toList))) = .ok [] := by
  have hfree : ¬ Mentions "c ON id = c.id".toList "FROM" := by
    unfold Mentions
    decide +kernel
  constructor
  · exact (comma_joins_are_recognised idColumn pastOrders recentOrders _ (by decide +kernel)
      (by decide +kernel)).1 (.filter _)
  · exact (comma_joins_are_recognised idColumn pastOrders recentOrders _ (by decide +kernel)
      (by decide +kernel)).2 (.joined (by decide) hfree)

def fromColumn : Identifier := ⟨'f', "rom".toList, by decide, by decide⟩

def plainTable (c : Char) (hc : opensPlainName c = true) : ListedTable where
  name := .plain c [] hc (by simp)
  others := []
  short := by simp
  alias? := none

/-- A column whose name reads FROM in another case is taken for the word that leads to the
tables. -/
theorem column_from_leads_to_tables :
    fromColumn.text ≠ "FROM".toList ∧
      commaQuery fromColumn (plainTable 'a' rfl) (plainTable 'b' rfl) [] =
        "SELECT from FROM a, b" ∧
      normalize "SELECT from FROM a, b" = "SELECT from FROM a, b" ∧
      fromList (plainTable 'a' rfl) (plainTable 'b' rfl) = "FROM a, b".toList ∧
      reported .cartesianProduct "SELECT from FROM a, b" = .ok ["from FROM a, b"] ∧
      reported .cartesianProduct "SELECT from FROM a, b" ≠ .ok ["FROM a, b"] := by
  decide +kernel

end QueryTuning.Query
