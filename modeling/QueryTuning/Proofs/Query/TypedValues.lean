import QueryTuning.Proofs.Pattern.Choices
import QueryTuning.Proofs.Query.Identifiers
import QueryTuning.Proofs.Text.Margins

/-!
# Values of a type

A value has a type as a literal or by a conversion. The text that is converted may itself read
like the mark of a type. The mark that counts is the one in front of the next parenthesis, because
nothing but a size may stand between the two, so a conversion to one type is never taken for a
conversion to another one.
-/

set_option autoImplicit false

namespace QueryTuning.Query

open Pattern Text

variable {c d e m : Cursor} {types others : List String}

structure Digits where
  text : List Char
  ne_nil : text ≠ []
  decimal : ∀ x ∈ text, isDecimal x = true

inductive TypeLength where
  | digits (n : Digits)
  | max

def TypeLength.text : TypeLength → List Char
  | digits n => n.text
  | max => "MAX".toList

structure TypeSize where
  length : TypeLength
  scale? : Option (Bool × Digits)

def scaleText (scale : Bool × Digits) : List Char :=
  ',' :: ((if scale.1 then [' '] else []) ++ scale.2.text)

def TypeSize.text (s : TypeSize) : List Char :=
  '(' :: (s.length.text ++ ((s.scale?.map scaleText).getD [] ++ [')']))

def sizeText (size? : Option TypeSize) : List Char := (size?.map TypeSize.text).getD []

structure Conversion (types : List String) where
  casts : Bool
  type : String
  known : type ∈ types
  size? : Option TypeSize
  value : List Char
  flat : ∀ x ∈ value, (!isParenthesis x) = true

def castText (v : Conversion types) : List Char :=
  ("CAST".toList ++ ['(']) ++ ((v.value ++ [' ']) ++
    ("AS".toList ++ ([' '] ++ (v.type.toList ++ (sizeText v.size? ++ [')'])))))

def convertText (v : Conversion types) : List Char :=
  ("CONVERT".toList ++ ['(']) ++ (v.type.toList ++ (sizeText v.size? ++
    ([','] ++ (' ' :: v.value ++ [')']))))

def Conversion.text (v : Conversion types) : List Char :=
  if v.casts then castText v else convertText v

theorem head?_ends_length {n : TypeLength} (h : c.Spans n.text d)
    (hd : StartsOutside isDecimal d.rest) :
    (ends (choice [run1 isDecimal, word "MAX"]) c).head? = some d := by
  cases n with
  | digits n => exact head?_ends_left (head?_ends_run1_spans n.ne_nil n.decimal h hd)
  | max => exact head?_ends_right (ends_run1_of_not h.rest (by decide)) (head?_ends_word h)

theorem Digits.starts_ink (n : Digits) (more : List Char) :
    StartsOutside isBlank (n.text ++ more) :=
  starts_ink_of_word (fun x hx => isWord_of_isDecimal (n.decimal x hx)) n.ne_nil

theorem TypeLength.starts_ink (n : TypeLength) (more : List Char) :
    StartsOutside isBlank (n.text ++ more) := by
  cases n with
  | digits n => exact n.starts_ink more
  | max => exact startsOutside_cons.mpr (by decide)

def Closes (c : Cursor) : Prop := ∃ x xs, c.rest = x :: xs ∧ x ∈ [')', ',']

theorem Closes.outside {p : Char → Bool} (h : Closes c) (hp : ∀ x ∈ [')', ','], p x = false) :
    StartsOutside p c.rest := by
  obtain ⟨x, xs, hc, hx⟩ := h
  rw [hc, startsOutside_cons]
  exact hp x hx

theorem closes_mark {x : Char} (hx : x ∈ [')', ',']) (h : c.Spans [x] d) : Closes c :=
  ⟨x, d.rest, h.rest, hx⟩

theorem beginsInk_comma : BeginsInk (letter ',') := ⟨rfl, by decide +kernel⟩

theorem beginsInk_open : BeginsInk (letter '(') := ⟨rfl, by decide +kernel⟩

theorem head?_ends_scale {scale? : Option (Bool × Digits)}
    (h : c.Spans ((scale?.map scaleText).getD []) m) (hclose : m.Spans [')'] d) :
    (ends (optional (sequence [blanks0, letter ',', blanks0, run1 isDecimal])) c).head? =
      some m := by
  have hm : Closes m := closes_mark (by decide) hclose
  cases scale? with
  | none =>
    obtain rfl := Cursor.spans_nil.mp h
    have hcomma : ends (letter ',') m = [] := ends_letter_of_not hclose.rest (by decide)
    exact head?_ends_skipped ((ends_blanks0_of_ink beginsInk_comma.seq_left
      (hm.outside (by decide))).trans (ends_seq_of_left hcomma))
  | some scale =>
    obtain ⟨m₁, hcomma, h⟩ := Cursor.spans_cons.mp h
    obtain ⟨m₂, hgap, hdigits⟩ := Cursor.spans_append.mp h
    have hc : StartsOutside isBlank c.rest :=
      (closes_mark (by decide) hcomma).outside (by decide)
    have hm₂ : StartsOutside isBlank m₂.rest := hdigits.rest ▸ scale.2.starts_ink m.rest
    have hblank : ∀ x ∈ (if scale.1 then [' '] else []), isBlank x = true := by
      split <;> decide
    exact head?_ends_taken (head?_ends_seq (head?_ends_blanks0 hc)
      (head?_ends_seq (head?_ends_mark hcomma)
        (head?_ends_seq (head?_ends_run0_spans hblank hgap hm₂)
          (head?_ends_seq (head?_ends_run1_spans scale.2.ne_nil scale.2.decimal hdigits
            (hm.outside (by decide))) head?_ends_done))))

theorem head?_ends_typeSize {s : TypeSize} (h : c.Spans s.text d) :
    (ends typeArguments c).head? = some d := by
  obtain ⟨m₁, hopen, h⟩ := Cursor.spans_cons.mp h
  obtain ⟨m₂, hlength, h⟩ := Cursor.spans_append.mp h
  obtain ⟨m₃, hscale, hclose⟩ := Cursor.spans_append.mp h
  have hc : StartsOutside isBlank c.rest := by
    rw [hopen.rest]
    exact startsOutside_cons.mpr (by decide)
  have hm₁ : StartsOutside isBlank m₁.rest := hlength.rest ▸ s.length.starts_ink m₂.rest
  have hm₃ : Closes m₃ := closes_mark (by decide) hclose
  have hm₂ : Closes m₂ := by
    cases hs : s.scale? with
    | none =>
      rw [hs] at hscale
      exact Cursor.spans_nil.mp hscale ▸ hm₃
    | some scale =>
      rw [hs] at hscale
      exact ⟨',', _, hscale.rest, by decide⟩
  exact head?_ends_taken (head?_ends_seq (head?_ends_blanks0 hc)
    (head?_ends_seq (head?_ends_mark hopen) (head?_ends_seq (head?_ends_blanks0 hm₁)
      (head?_ends_seq (head?_ends_length hlength (hm₂.outside (by decide)))
        (head?_ends_seq (head?_ends_scale hscale hclose)
          (head?_ends_seq (head?_ends_blanks0 (hm₃.outside (by decide)))
            (head?_ends_seq (head?_ends_mark hclose) head?_ends_done)))))))

/-- The size of a type is taken, if there is one. -/
theorem head?_ends_typeArguments {size? : Option TypeSize} (h : c.Spans (sizeText size?) d)
    (hd : Closes d) : (ends typeArguments c).head? = some d := by
  cases size? with
  | none =>
    obtain rfl := Cursor.spans_nil.mp h
    have hopen : ends (letter '(') d = [] := by
      obtain ⟨x, xs, hrest, hx⟩ := hd
      have hother : ∀ x ∈ [')', ','], folded x ≠ folded '(' := by decide
      exact ends_letter_of_not hrest (hother x hx)
    exact head?_ends_skipped ((ends_blanks0_of_ink beginsInk_open.seq_left
      (hd.outside (by decide))).trans (ends_seq_of_left hopen))
  | some s => exact head?_ends_typeSize h

structure IsTypeList (types : List String) : Prop where
  letters : ∀ w ∈ types, ∀ x ∈ w.toList, isWord x = true
  filled : ∀ w ∈ types, w.toList ≠ []
  apart : ∀ w ∈ types, ∀ v ∈ types.takeWhile (· != w),
    ¬ v.toList.map folded <+: w.toList.map folded ∧ ¬ w.toList.map folded <+: v.toList.map folded

theorem IsTypeList.head?_ends (ht : IsTypeList types) {w : String} (hw : w ∈ types)
    (h : c.Spans w.toList d) : (ends (choice (types.map word)) c).head? = some d := by
  refine head?_ends_choice_word hw h fun v hv hprefix => ?_
  rw [h.rest] at hprefix
  exact (prefix_cases hprefix).elim (ht.apart w hw v hv).1 (ht.apart w hw v hv).2

theorem IsTypeList.head?_ends_boundary (ht : IsTypeList types) {w : String} (hw : w ∈ types)
    (h : c.Spans w.toList d) (hd : StartsOutside isWord d.rest) :
    (ends boundary d).head? = some d :=
  Pattern.head?_ends_boundary ((atBoundary_behind (ht.letters w hw) (ht.filled w hw) h).mpr hd)

/-- Behind a type there is a parenthesis, a comma or the size. -/
theorem outside_of_size {size? : Option TypeSize} (h : c.Spans (sizeText size?) d)
    (hd : Closes d) : StartsOutside isWord c.rest := by
  cases size? with
  | none =>
    obtain rfl := Cursor.spans_nil.mp h
    exact hd.outside (by decide)
  | some s =>
    have hopen : c.rest = '(' :: _ := h.rest
    rw [hopen]
    exact startsOutside_cons.mpr (by decide)

def typeMark (types : List String) : Pattern :=
  sequence [boundary, word "AS", blanks1, choice (types.map word), boundary, typeArguments,
    blanks0, letter ')']

theorem head?_ends_typeMark (ht : IsTypeList types) (v : Conversion types)
    (hlast : ∀ y, c.last = some y → isWord y = false)
    (h : c.Spans ("AS".toList ++ ([' '] ++ (v.type.toList ++ (sizeText v.size? ++ [')'])))) d) :
    (ends (typeMark types) c).head? = some d := by
  obtain ⟨m₁, hmark, h⟩ := Cursor.spans_append.mp h
  obtain ⟨m₂, hspace, h⟩ := Cursor.spans_append.mp h
  obtain ⟨m₃, htype, h⟩ := Cursor.spans_append.mp h
  obtain ⟨m₄, hsize, hclose⟩ := Cursor.spans_append.mp h
  have hboundary : atBoundary c = true :=
    (atBoundary_ahead (by decide) (by decide) hmark).mpr hlast
  have hm₂ : StartsOutside isBlank m₂.rest :=
    htype.rest ▸ starts_ink_of_word (ht.letters v.type v.known) (ht.filled v.type v.known)
  have hm₄ : Closes m₄ := closes_mark (by decide) hclose
  exact head?_ends_seq (Pattern.head?_ends_boundary hboundary)
    (head?_ends_seq (head?_ends_word hmark)
      (head?_ends_seq (head?_ends_run1_spans (by simp) (by decide) hspace hm₂)
        (head?_ends_seq (ht.head?_ends v.known htype)
          (head?_ends_seq (ht.head?_ends_boundary v.known htype (outside_of_size hsize hm₄))
            (head?_ends_seq (head?_ends_typeArguments hsize hm₄)
              (head?_ends_seq (head?_ends_blanks0 (hm₄.outside (by decide)))
                (head?_ends_seq (head?_ends_mark hclose) head?_ends_done)))))))

theorem flat_of_class {p : Char → Bool} (hp : ∀ x ∈ ['(', ')'], p x = false) {x : Char}
    (hx : p x = true) : (!isParenthesis x) = true := by
  by_contra hparenthesis
  simp only [isParenthesis, Bool.not_eq_true', Bool.not_eq_false, Bool.or_eq_true, beq_iff_eq]
    at hparenthesis
  have hmem : x ∈ ['(', ')'] := by simpa using hparenthesis
  simp [hp x hmem] at hx

theorem flat_of_word {x : Char} (hx : isWord x = true) : (!isParenthesis x) = true :=
  flat_of_class (by decide) hx

theorem flat_of_blank {x : Char} (hx : isBlank x = true) : (!isParenthesis x) = true :=
  flat_of_class (by decide) hx

theorem runs_between_blanks {b n b' : List Char} (hb : ∀ x ∈ b, isBlank x = true)
    (hn : ∀ x ∈ n, isWord x = true) (hne : n ≠ []) (hb' : ∀ x ∈ b', isBlank x = true) :
    runs isWord (b ++ (n ++ b')) = [n] := by
  have hout : ∀ {t : List Char}, (∀ x ∈ t, isBlank x = true) → ∀ x ∈ t, isWord x = false :=
    fun ht x hx => isWord_of_isBlank (ht x hx)
  have hfront : EndsOutside isWord b := fun x hx => hout hb x (List.mem_of_getLast? hx)
  have hback : StartsOutside isWord b' := fun x hx => hout hb' x (List.mem_of_head? hx)
  rw [runs_append (.inl hfront), runs_append (.inr hback), runs_of_none (hout hb),
    runs_of_none (hout hb'), runs_of_all hne hn]
  rfl

structure ReadsMark (types : List String) (text mark tail name rest : List Char) : Prop where
  text_eq : text = (mark ++ tail) ++ rest
  reads : Reads "AS".toList mark
  apart : StartsOutside isWord tail
  one_word : runs isWord tail = [name]
  known : ∃ w ∈ types, Reads w.toList name
  flat : ∀ x ∈ mark ++ tail, (!isParenthesis x) = true
  closed : StartsOutside (fun x => !isParenthesis x) rest

/-- Between a type and the end of its cast stand blanks up to the next parenthesis. -/
theorem exists_parenthesis (hd : d ∈ ends (sequence [typeArguments, blanks0, letter ')']) c) :
    ∃ b rest, c.rest = b ++ rest ∧ (∀ x ∈ b, isBlank x = true) ∧
      StartsOutside (fun x => !isParenthesis x) rest := by
  simp only [sequence_cons, sequence_nil, mem_ends_seq, mem_ends_empty] at hd
  obtain ⟨m, hm, e, he, d, hclose, rfl⟩ := hd
  rw [typeArguments, Pattern.optional, ends, List.mem_append] at hm
  rcases hm with hm | hm
  · simp only [sequence_cons, mem_ends_seq] at hm
    obtain ⟨f, hf, g, hopen, -⟩ := hm
    obtain ⟨b, hb, hspan⟩ := mem_ends_run0.mp hf
    have hopen := (mem_ends_mark (by decide)).mp hopen
    refine ⟨b, f.rest, hspan.rest, hb, ?_⟩
    rw [hopen.rest]
    exact startsOutside_cons.mpr (by decide)
  · obtain rfl := mem_ends_empty.mp hm
    obtain ⟨b, hb, hspan⟩ := mem_ends_run0.mp he
    have hclose := (mem_ends_mark (by decide)).mp hclose
    refine ⟨b, e.rest, hspan.rest, hb, ?_⟩
    rw [hclose.rest]
    exact startsOutside_cons.mpr (by decide)

theorem readsMark_of_mem (ht : IsTypeList types) (hd : d ∈ ends (typeMark types) c) :
    ∃ mark tail name rest, ReadsMark types c.rest mark tail name rest := by
  obtain ⟨m, hboundary, hmarked⟩ := mem_ends_seq.mp hd
  obtain ⟨-, rfl⟩ := mem_ends_boundary.mp hboundary
  obtain ⟨m₁, hmark, hspaced⟩ := mem_ends_seq.mp hmarked
  obtain ⟨m₂, hblanks, htyped⟩ := mem_ends_seq.mp hspaced
  obtain ⟨m₃, htype, hbounded⟩ := mem_ends_seq.mp htyped
  obtain ⟨m₄, hend, hsized⟩ := mem_ends_seq.mp hbounded
  obtain ⟨hat, rfl⟩ := mem_ends_boundary.mp hend
  obtain ⟨mark, hreads, hspan₁⟩ := mem_ends_word.mp hmark
  obtain ⟨x, b, hx, hb, hspan₂⟩ := mem_ends_run1.mp hblanks
  obtain ⟨w, hw, htype⟩ := mem_ends_choice_words.mp htype
  have houtside := startsOutside_of_boundary (ht.letters w hw) (ht.filled w hw) htype hat
  obtain ⟨name, hname, hspan₃⟩ := mem_ends_word.mp htype
  obtain ⟨b', rest, hrest, hb', hclosed⟩ := exists_parenthesis hsized
  have hletters := Reads.isWord hname (ht.letters w hw)
  have hne : name ≠ [] := Reads.ne_nil hname (ht.filled w hw)
  have hgap : ∀ y ∈ x :: b, isBlank y = true := List.forall_mem_cons.mpr ⟨hx, hb⟩
  refine ⟨mark, (x :: b) ++ (name ++ b'), name, rest, ?_, hreads,
    startsOutside_cons.mpr (isWord_of_isBlank hx), runs_between_blanks hgap hletters hne hb',
    ⟨w, hw, hname⟩, ?_, hclosed⟩
  · rw [hspan₁.rest, hspan₂.rest, hspan₃.rest, hrest]
    simp
  · have hmarkWord := Reads.isWord hreads (by decide)
    intro y hy
    simp only [List.mem_append] at hy
    rcases hy with hy | hy | hy | hy
    · exact flat_of_word (hmarkWord y hy)
    · exact flat_of_blank (hgap y hy)
    · exact flat_of_word (hletters y hy)
    · exact flat_of_blank (hb' y hy)

theorem ends_opened {s : String} {q : Pattern} (h : c.Spans (s.toList ++ ['(']) m) :
    ends (seq (word s) (seq blanks0 (seq (letter '(') q))) c = ends q m := by
  obtain ⟨e, hword, hopen⟩ := Cursor.spans_append.mp h
  have hword : ends (word s) c = [e] := ends_letters rfl hword
  have he : StartsOutside isBlank e.rest := by
    rw [hopen.rest]
    exact startsOutside_cons.mpr (by decide)
  have hopen : ends (letter '(') e = [m] := ends_letter_spelled hopen
  rw [ends_seq_of_single hword, ends_blanks0_of_ink beginsInk_open.seq_left he,
    ends_seq_of_single hopen]

def castTo (types : List String) : Pattern :=
  seq (word "CAST") (seq blanks0 (seq (letter '(')
    (seq (few (one fun c => !isParenthesis c)) (typeMark types))))

theorem closed_of_size (size? : Option TypeSize) (rest : List Char) :
    StartsOutside (fun x => !isParenthesis x) ((sizeText size? ++ [')']) ++ rest) := by
  cases size? <;> exact startsOutside_cons.mpr (by decide)

theorem flat_type (ht : IsTypeList types) (v : Conversion types) :
    ∀ x ∈ v.type.toList, (!isParenthesis x) = true := fun x hx =>
  flat_of_word (ht.letters v.type v.known x hx)

theorem runs_spaced_type (ht : IsTypeList types) (v : Conversion types) :
    runs isWord (' ' :: v.type.toList) = [v.type.toList] := by
  rw [runs_cons_of_not (by decide),
    runs_of_all (ht.filled v.type v.known) (ht.letters v.type v.known)]

/-- In front of the mark of its type no mark of a cast is found, as another word stands between
it and the parenthesis. -/
theorem ends_typeMark_before (ht : IsTypeList types) (v : Conversion types) {x : Char}
    {u rest : List Char} (hu : EndsOutside isWord (x :: u))
    (hflat : ∀ y ∈ x :: u, (!isParenthesis y) = true)
    (hrest : StartsOutside (fun y => !isParenthesis y) rest)
    (hc : c.rest = ((x :: u) ++ ("AS".toList ++ (' ' :: v.type.toList))) ++ rest) :
    ends (typeMark types) c = [] := by
  rw [List.eq_nil_iff_forall_not_mem]
  intro d hd
  obtain ⟨mark, tail, name, rest', hmark⟩ := readsMark_of_mem ht hd
  have hflat' : ∀ y ∈ (x :: u) ++ ("AS".toList ++ (' ' :: v.type.toList)),
      (!isParenthesis y) = true := by
    intro y hy
    rcases List.mem_append.mp hy with hy | hy
    · exact hflat y hy
    · rcases List.mem_append.mp hy with hy | hy
      · exact flat_of_word ((by decide : ∀ y ∈ "AS".toList, isWord y = true) y hy)
      · rcases List.mem_cons.mp hy with rfl | hy
        · decide
        · exact flat_type ht v y hy
  obtain ⟨hsame, -⟩ := append_outside_inj hmark.flat hflat' hmark.closed hrest
    (hmark.text_eq.symm.trans hc)
  have hword := hmark.reads.isWord (by decide)
  obtain ⟨y, ys, hy⟩ := List.exists_cons_of_ne_nil (hmark.reads.ne_nil (by decide))
  have hxy : x = y := by
    rw [hy] at hsame
    exact (List.cons.inj hsame).1.symm
  have hx : isWord x = true := hword x (by simp [hy, hxy])
  have hruns := congrArg (fun t => (runs isWord t).length) hsame
  have hspace : StartsOutside isWord (' ' :: v.type.toList) := startsOutside_cons.mpr (by decide)
  have has : runs isWord "AS".toList = ["AS".toList] := runs_of_all (by decide) (by decide)
  simp only [runs_append (.inl hu), runs_append (.inr hmark.apart), hmark.one_word,
    runs_append (.inr hspace), has, runs_spaced_type ht v,
    runs_of_all (hmark.reads.ne_nil (by decide)) hword] at hruns
  have hnone : runs isWord (x :: u) ≠ [] := runs_ne_nil_of_mem hx (by simp)
  have hpos := List.length_pos_iff.mpr hnone
  simp only [List.length_append, List.length_cons, List.length_nil] at hruns
  omega

theorem head?_ends_cast (ht : IsTypeList types) (v : Conversion types)
    (h : c.Spans (castText v) d) : (ends (castTo types) c).head? = some d := by
  obtain ⟨m, hopened, h⟩ := Cursor.spans_append.mp h
  obtain ⟨e, hvalue, hmark⟩ := Cursor.spans_append.mp h
  have hlast : ∀ y, e.last = some y → isWord y = false := by
    intro y hy
    rw [hvalue.last, List.getLast?_concat, Option.some_or] at hy
    obtain rfl : ' ' = y := by simpa using hy
    decide
  have hflat : ∀ x ∈ v.value ++ [' '], (!isParenthesis x) = true :=
    List.forall_mem_append.mpr ⟨v.flat, by decide⟩
  rw [castTo, ends_opened hopened]
  refine head?_ends_few_one hflat hvalue ?_ (head?_ends_typeMark ht v hlast hmark)
  intro s x u f hsplit hf
  have hu : EndsOutside isWord (x :: u) :=
    endsOutside_of_isSuffix ⟨s, hsplit.symm⟩ (endsOutside_append_singleton.mpr (by decide))
  have hrest : f.rest = ((x :: u) ++ ("AS".toList ++ (' ' :: v.type.toList))) ++
      ((sizeText v.size? ++ [')']) ++ d.rest) := by
    have hwithin := hf.rest_within (hsplit ▸ hvalue)
    rw [hwithin, hmark.rest]
    simp
  exact ends_typeMark_before ht v hu (fun y hy => hflat y (by rw [hsplit]; simp [hy]))
    (closed_of_size _ _) hrest

theorem ends_cast_of_other (ho : IsTypeList others) (ht : IsTypeList types) (v : Conversion types)
    (hother : ∀ w ∈ others, ¬ Reads w.toList v.type.toList) (h : c.Spans (castText v) d) :
    ends (castTo others) c = [] := by
  obtain ⟨m, hopened, h⟩ := Cursor.spans_append.mp h
  rw [castTo, ends_opened hopened]
  refine ends_seq_of_right fun e he => List.eq_nil_iff_forall_not_mem.mpr fun f hf => ?_
  obtain ⟨s, hs, hspan⟩ := mem_ends_few_one he
  obtain ⟨mark, tail, name, rest, hmark⟩ := readsMark_of_mem ho hf
  have hfound : m.rest = ((s ++ mark) ++ tail) ++ rest := by
    rw [hspan.rest, hmark.text_eq]
    simp
  have hwritten : m.rest = ((v.value ++ " AS".toList) ++ (' ' :: v.type.toList)) ++
      ((sizeText v.size? ++ [')']) ++ d.rest) := by
    rw [h.rest]
    simp
  have has : ∀ x ∈ " AS".toList, (!isParenthesis x) = true := by decide
  have hspace : ∀ x ∈ ' ' :: v.type.toList, (!isParenthesis x) = true :=
    List.forall_mem_cons.mpr ⟨by decide, flat_type ht v⟩
  have hflat : ∀ x ∈ (s ++ mark) ++ tail, (!isParenthesis x) = true := by
    rw [List.append_assoc]
    exact List.forall_mem_append.mpr ⟨hs, hmark.flat⟩
  obtain ⟨hsame, -⟩ := append_outside_inj hflat (List.forall_mem_append.mpr
    ⟨List.forall_mem_append.mpr ⟨v.flat, has⟩, hspace⟩) hmark.closed
    (closed_of_size v.size? d.rest) (hfound.symm.trans hwritten)
  have hruns := congrArg (runs isWord) hsame
  rw [runs_append (.inr hmark.apart), hmark.one_word,
    runs_append (.inr (startsOutside_cons.mpr (by decide))), runs_spaced_type ht v] at hruns
  obtain ⟨w, hw, hname⟩ := hmark.known
  have hsameName : [name] = [v.type.toList] := List.append_inj_right' hruns rfl
  exact hother w hw (List.singleton_inj.mp hsameName ▸ hname)

def convertArguments (types : List String) : Pattern :=
  seq blanks0 (seq (choice (types.map word)) (seq boundary (sequence [typeArguments, blanks0,
    letter ',', run0 fun c => !isParenthesis c, letter ')'])))

def convertTo (types : List String) : Pattern :=
  seq (word "CONVERT") (seq blanks0 (seq (letter '(') (convertArguments types)))

theorem head?_ends_convert (ht : IsTypeList types) (v : Conversion types)
    (h : c.Spans (convertText v) d) : (ends (convertTo types) c).head? = some d := by
  obtain ⟨m, hopened, h⟩ := Cursor.spans_append.mp h
  obtain ⟨m₁, htype, h⟩ := Cursor.spans_append.mp h
  obtain ⟨m₂, hsize, h⟩ := Cursor.spans_append.mp h
  obtain ⟨m₃, hcomma, h⟩ := Cursor.spans_append.mp h
  obtain ⟨m₄, hvalue, hclose⟩ := Cursor.spans_append.mp h
  have hm : StartsOutside isBlank m.rest :=
    htype.rest ▸ starts_ink_of_word (ht.letters v.type v.known) (ht.filled v.type v.known)
  have hm₂ : Closes m₂ := closes_mark (by decide) hcomma
  have hflat : ∀ x ∈ ' ' :: v.value, (!isParenthesis x) = true :=
    List.forall_mem_cons.mpr ⟨by decide, v.flat⟩
  have hm₄ : StartsOutside (fun x => !isParenthesis x) m₄.rest := by
    rw [hclose.rest]
    exact startsOutside_cons.mpr (by decide)
  rw [convertTo, ends_opened hopened]
  exact head?_ends_seq (head?_ends_blanks0 hm)
    (head?_ends_seq (ht.head?_ends v.known htype)
      (head?_ends_seq (ht.head?_ends_boundary v.known htype (outside_of_size hsize hm₂))
        (head?_ends_seq (head?_ends_typeArguments hsize hm₂)
          (head?_ends_seq (head?_ends_blanks0 (hm₂.outside (by decide)))
            (head?_ends_seq (head?_ends_mark hcomma)
              (head?_ends_seq (head?_ends_run0_spans hflat hvalue hm₄)
                (head?_ends_seq (head?_ends_mark hclose) head?_ends_done)))))))

theorem ends_convert_of_other (ho : IsTypeList others) (ht : IsTypeList types)
    (v : Conversion types) (hother : ∀ w ∈ others, ¬ Reads w.toList v.type.toList)
    (h : c.Spans (convertText v) d) : ends (convertTo others) c = [] := by
  obtain ⟨m, hopened, h⟩ := Cursor.spans_append.mp h
  obtain ⟨m₁, htype, h⟩ := Cursor.spans_append.mp h
  obtain ⟨m₂, hsize, h⟩ := Cursor.spans_append.mp h
  obtain ⟨m₃, hcomma, -⟩ := Cursor.spans_append.mp h
  have hletters := ht.letters v.type v.known
  have hfilled := ht.filled v.type v.known
  have hm₁ : StartsOutside isWord m₁.rest :=
    outside_of_size hsize (closes_mark (by decide) hcomma)
  rw [convertTo, ends_opened hopened]
  refine ends_seq_of_right fun e he => ends_seq_of_right fun f hf => ends_seq_of_left ?_
  obtain ⟨b, hb, hspan⟩ := mem_ends_run0.mp he
  -- The type comes at once, so no blank is passed over.
  have hnone : b = [] := by
    cases b with
    | nil => rfl
    | cons x b =>
      have hink := starts_ink_of_word (t := m₁.rest) hletters hfilled
      rw [← htype.rest, hspan.rest, List.cons_append, startsOutside_cons, hb x (by simp)] at hink
      cases hink
  subst hnone
  obtain rfl := Cursor.spans_nil.mp hspan
  obtain ⟨w, hw, hword⟩ := mem_ends_choice_words.mp hf
  rw [List.eq_nil_iff_forall_not_mem]
  intro g hg
  have hend := startsOutside_of_boundary (ho.letters w hw) (ho.filled w hw) hword
    (mem_ends_boundary.mp hg).1
  exact hother w hw (folded_eq_of_mem_ends_word (ho.letters w hw) hword hend htype.rest hletters
    hm₁).1

theorem conversionTo_eq (types : List String) :
    conversionTo (choice (types.map word)) = alt (castTo types) (convertTo types) := rfl

/-- A conversion to one of the types is taken as a whole. -/
theorem head?_ends_conversion (ht : IsTypeList types) (v : Conversion types)
    (h : c.Spans v.text d) :
    (ends (conversionTo (choice (types.map word))) c).head? = some d := by
  rw [Conversion.text] at h
  split at h
  · exact head?_ends_left (head?_ends_cast ht v h)
  · obtain ⟨m, hopened, -⟩ := Cursor.spans_append.mp h
    have hcast : ends (word "CAST") c = [] :=
      ends_word_of_apart (hopened.rest.trans (List.append_assoc _ _ _)) (by decide) (by decide)
    exact head?_ends_right (ends_seq_of_left hcast) (head?_ends_convert ht v h)

/-- A conversion to another type is none to one of the types. -/
theorem ends_conversion_of_other (ho : IsTypeList others) (ht : IsTypeList types)
    (v : Conversion types) (hother : ∀ w ∈ others, ¬ Reads w.toList v.type.toList)
    (h : c.Spans v.text d) : ends (conversionTo (choice (others.map word))) c = [] := by
  rw [Conversion.text] at h
  rw [conversionTo_eq, ends_alt_eq_nil]
  split at h
  · obtain ⟨m, hopened, -⟩ := Cursor.spans_append.mp h
    have hconvert : ends (word "CONVERT") c = [] :=
      ends_word_of_apart (hopened.rest.trans (List.append_assoc _ _ _)) (by decide) (by decide)
    exact ⟨ends_cast_of_other ho ht v hother h, ends_seq_of_left hconvert⟩
  · obtain ⟨m, hopened, -⟩ := Cursor.spans_append.mp h
    have hcast : ends (word "CAST") c = [] :=
      ends_word_of_apart (hopened.rest.trans (List.append_assoc _ _ _)) (by decide) (by decide)
    exact ⟨ends_seq_of_left hcast, ends_convert_of_other ho ht v hother h⟩

end QueryTuning.Query
