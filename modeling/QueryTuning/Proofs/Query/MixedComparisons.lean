import QueryTuning.Proofs.Query.Issues
import QueryTuning.Proofs.Query.TypedValues

/-!
# Comparisons across types

A string value and a numeric value on the two sides of a comparison are found in either order. A
numeric value is no string value, so the first order is refused where the second one stands, and
nothing in the query up to its filter begins a value.
-/

set_option autoImplicit false

namespace QueryTuning.Query

open Pattern Text

variable {c d e m : Cursor}

def stringTypes : List String := ["VARCHAR", "NVARCHAR", "CHAR", "NCHAR", "TEXT", "NTEXT"]

def numericTypes : List String :=
  ["INT", "BIGINT", "SMALLINT", "TINYINT", "DECIMAL", "NUMERIC", "FLOAT", "REAL", "MONEY",
    "SMALLMONEY", "BIT"]

theorem stringExpression_eq :
    stringExpression = alt (conversionTo (choice (stringTypes.map word))) stringLiteral := rfl

theorem numericExpression_eq :
    numericExpression = alt (conversionTo (choice (numericTypes.map word))) numericLiteral := rfl

theorem isTypeList_string : IsTypeList stringTypes :=
  ⟨by decide +kernel, by decide +kernel, by decide +kernel⟩

theorem isTypeList_numeric : IsTypeList numericTypes :=
  ⟨by decide +kernel, by decide +kernel, by decide +kernel⟩

structure StringLiteral where
  national : Bool
  content : List Char
  unquoted : ∀ x ∈ content, (x != '\'') = true

def StringLiteral.text (l : StringLiteral) : List Char :=
  (if l.national then ['N'] else []) ++ ('\'' :: (l.content ++ ['\'']))

structure NumericLiteral where
  negative : Bool
  whole : Digits
  fraction? : Option Digits

def fractionText (n : Digits) : List Char := '.' :: n.text

def NumericLiteral.text (l : NumericLiteral) : List Char :=
  (if l.negative then ['-'] else []) ++ (l.whole.text ++ (l.fraction?.map fractionText).getD [])

inductive StringValue where
  | literal (l : StringLiteral)
  | converted (v : Conversion stringTypes)

def StringValue.text : StringValue → List Char
  | literal l => l.text
  | converted v => v.text

inductive NumericValue where
  | literal (l : NumericLiteral)
  | converted (v : Conversion numericTypes)

def NumericValue.text : NumericValue → List Char
  | literal l => l.text
  | converted v => v.text

theorem rest_of_opens {t xs : List Char} {x : Char} (h : c.Spans t d) (ht : t = x :: xs) :
    c.rest = x :: (xs ++ d.rest) := by
  rw [h.rest, ht, List.cons_append]

theorem head?_ends_stringLiteral {l : StringLiteral} (h : c.Spans l.text d) :
    (ends stringLiteral c).head? = some d := by
  obtain ⟨m₁, hnational, h⟩ := Cursor.spans_append.mp h
  obtain ⟨m₂, hopen, h⟩ := Cursor.spans_cons.mp h
  obtain ⟨m₃, hcontent, hclose⟩ := Cursor.spans_append.mp h
  have hoptional : (ends (optional (letter 'N')) c).head? = some m₁ := by
    split at hnational
    · exact head?_ends_taken (head?_ends_mark hnational)
    · obtain rfl := Cursor.spans_nil.mp hnational
      exact head?_ends_skipped (ends_letter_of_not hopen.rest (by decide))
  have hm₃ : StartsOutside (· != '\'') m₃.rest := by
    rw [hclose.rest]
    exact startsOutside_cons.mpr (by decide)
  exact head?_ends_seq hoptional (head?_ends_seq (head?_ends_mark hopen)
    (head?_ends_seq (head?_ends_run0_spans l.unquoted hcontent hm₃)
      (head?_ends_seq (head?_ends_mark hclose) head?_ends_done)))

/-- No conversion begins where another letter comes next. -/
theorem ends_conversion_of_not {types : Pattern} {x : Char} {xs : List Char} (hc : c.rest = x :: xs)
    (hx : folded x ≠ folded 'C') : ends (conversionTo types) c = [] := by
  have hletter : ends (letter 'C') c = [] := ends_letter_of_not hc hx
  exact ends_alt_eq_nil.mpr ⟨ends_seq_of_left (ends_seq_of_left hletter),
    ends_seq_of_left (ends_seq_of_left hletter)⟩

theorem ends_stringLiteral_of_not {x : Char} {xs : List Char} (hc : c.rest = x :: xs)
    (hN : folded x ≠ folded 'N') (hquote : folded x ≠ folded '\'') :
    ends stringLiteral c = [] := by
  refine ends_seq_of_right fun e he => ?_
  rw [Pattern.optional, ends, ends_letter_of_not hc hN, List.nil_append, mem_ends_empty] at he
  exact he ▸ ends_seq_of_left (ends_letter_of_not hc hquote)

theorem StringLiteral.opens (l : StringLiteral) :
    ∃ x xs, l.text = x :: xs ∧ x ∈ ['N', '\''] := by
  rw [text]
  split
  · exact ⟨'N', _, rfl, by simp⟩
  · exact ⟨'\'', _, rfl, by simp⟩

theorem Conversion.opens {types : List String} (v : Conversion types) :
    ∃ xs, v.text = 'C' :: xs := by
  rw [text]
  split <;> exact ⟨_, rfl⟩

theorem head?_ends_stringExpression {s : StringValue} (h : c.Spans s.text d) :
    (ends stringExpression c).head? = some d := by
  rw [stringExpression_eq]
  cases s with
  | converted v => exact head?_ends_left (head?_ends_conversion isTypeList_string v h)
  | literal l =>
    obtain ⟨x, xs, hl, hx⟩ := l.opens
    have hother : ∀ x ∈ ['N', '\''], folded x ≠ folded 'C' := by decide
    exact head?_ends_right (ends_conversion_of_not (rest_of_opens h hl) (hother x hx))
      (head?_ends_stringLiteral h)

def OpensNumber (x : Char) : Prop := x = '-' ∨ isDecimal x = true

theorem OpensNumber.folded_ne {x y : Char} (hx : OpensNumber x) (hsign : folded y ≠ '-')
    (hdigit : isDecimal (folded y) = false) : folded x ≠ folded y := by
  intro heq
  rcases hx with rfl | hx
  · exact hsign heq.symm
  · rw [folded_of_isDecimal hx] at heq
    rw [← heq, hx] at hdigit
    cases hdigit

theorem NumericLiteral.opens (l : NumericLiteral) : ∃ x xs, l.text = x :: xs ∧ OpensNumber x := by
  rw [text]
  split
  · exact ⟨'-', _, rfl, .inl rfl⟩
  · obtain ⟨x, xs, hx⟩ := List.exists_cons_of_ne_nil l.whole.ne_nil
    rw [hx]
    exact ⟨x, _, rfl, .inr (l.whole.decimal x (by simp [hx]))⟩

def Spaced (rest : List Char) : Prop := ∀ x, rest.head? = some x → x = ' '

theorem Spaced.outside {p : Char → Bool} {rest : List Char} (h : Spaced rest)
    (hp : p ' ' = false) : StartsOutside p rest := fun x hx => h x hx ▸ hp

theorem Digits.isWord_text (n : Digits) : ∀ x ∈ n.text, isWord x = true := fun x hx =>
  isWord_of_isDecimal (n.decimal x hx)

theorem head?_ends_fraction {n? : Option Digits} (h : c.Spans ((n?.map fractionText).getD []) d)
    (hd : Spaced d.rest) :
    (ends (optional (seq (letter '.') (run1 isDecimal))) c).head? = some d := by
  cases n? with
  | none =>
    obtain rfl := Cursor.spans_nil.mp h
    have hopens : opensOutside [' '] (seq (letter '.') (run1 isDecimal)) = true := by
      decide +kernel
    exact head?_ends_skipped (ends_of_opens rfl hopens fun x hx => by simp [hd x hx])
  | some n =>
    obtain ⟨m, hpoint, hdigits⟩ := Cursor.spans_cons.mp h
    exact head?_ends_taken (head?_ends_seq (head?_ends_mark hpoint)
      (head?_ends_run1_spans n.ne_nil n.decimal hdigits (hd.outside (by decide))))

theorem atBoundary_of_digits {n : Digits} (h : c.Spans n.text d) (hd : Spaced d.rest) :
    atBoundary d = true :=
  (atBoundary_behind n.isWord_text n.ne_nil h).mpr (hd.outside (by decide))

/-- No digit comes behind the whole part of a number. -/
theorem outside_of_fraction {n? : Option Digits}
    (h : c.Spans ((n?.map fractionText).getD []) d) (hd : Spaced d.rest) :
    StartsOutside isDecimal c.rest := by
  cases n? with
  | none => exact Cursor.spans_nil.mp h ▸ hd.outside (by decide)
  | some n =>
    have hpoint : c.rest = '.' :: _ := h.rest
    rw [hpoint]
    exact startsOutside_cons.mpr (by decide)

theorem atBoundary_of_number {n : Digits} {n? : Option Digits} (hwhole : c.Spans n.text m)
    (h : m.Spans ((n?.map fractionText).getD []) d) (hd : Spaced d.rest) : atBoundary d = true := by
  cases n? with
  | none =>
    obtain rfl := Cursor.spans_nil.mp h
    exact atBoundary_of_digits hwhole hd
  | some n =>
    obtain ⟨m', -, hdigits⟩ := Cursor.spans_cons.mp h
    exact atBoundary_of_digits hdigits hd

theorem head?_ends_numericLiteral {l : NumericLiteral} (hlast : c.last = some ' ')
    (h : c.Spans l.text d) (hd : Spaced d.rest) : (ends numericLiteral c).head? = some d := by
  obtain ⟨m₁, hsign, h⟩ := Cursor.spans_append.mp h
  obtain ⟨m₂, hwhole, hfraction⟩ := Cursor.spans_append.mp h
  have hfree : (ends (notAfter fun x => isWord x || x == '@' || x == '.') c).head? = some c := by
    rw [ends, hlast]
    rfl
  have hoptional : (ends (optional (letter '-')) c).head? = some m₁ := by
    split at hsign
    · exact head?_ends_taken (head?_ends_mark hsign)
    · obtain rfl := Cursor.spans_nil.mp hsign
      obtain ⟨x, xs, hx⟩ := List.exists_cons_of_ne_nil l.whole.ne_nil
      have hdigit := l.whole.decimal x (by simp [hx])
      refine head?_ends_skipped (ends_letter_of_not (rest_of_opens hwhole hx) ?_)
      rw [folded_of_isDecimal hdigit]
      rintro rfl
      exact absurd hdigit (by decide)
  exact head?_ends_seq hfree (head?_ends_seq hoptional
    (head?_ends_seq (head?_ends_run1_spans l.whole.ne_nil l.whole.decimal hwhole
        (outside_of_fraction hfraction hd))
      (head?_ends_seq (head?_ends_fraction hfraction hd)
        (head?_ends_seq (head?_ends_boundary (atBoundary_of_number hwhole hfraction hd))
          head?_ends_done))))

theorem head?_ends_numericExpression {n : NumericValue} (hlast : c.last = some ' ')
    (h : c.Spans n.text d) (hd : Spaced d.rest) :
    (ends numericExpression c).head? = some d := by
  rw [numericExpression_eq]
  cases n with
  | converted v => exact head?_ends_left (head?_ends_conversion isTypeList_numeric v h)
  | literal l =>
    obtain ⟨x, xs, hl, hx⟩ := l.opens
    exact head?_ends_right
      (ends_conversion_of_not (rest_of_opens h hl) (hx.folded_ne (by decide) (by decide)))
      (head?_ends_numericLiteral hlast h hd)

/-- A numeric value is no string value. -/
theorem ends_stringExpression_of_numeric {n : NumericValue} (h : c.Spans n.text d) :
    ends stringExpression c = [] := by
  rw [stringExpression_eq, ends_alt_eq_nil]
  cases n with
  | converted v =>
    have hother : ∀ t ∈ numericTypes, ∀ w ∈ stringTypes, ¬ Reads w.toList t.toList := by
      decide +kernel
    obtain ⟨xs, hv⟩ := v.opens
    exact ⟨ends_conversion_of_other isTypeList_string isTypeList_numeric v (hother _ v.known) h,
      ends_stringLiteral_of_not (rest_of_opens h hv) (by decide) (by decide)⟩
  | literal l =>
    obtain ⟨x, xs, hl, hx⟩ := l.opens
    have hrest := rest_of_opens h hl
    exact ⟨ends_conversion_of_not hrest (hx.folded_ne (by decide) (by decide)),
      ends_stringLiteral_of_not hrest (hx.folded_ne (by decide) (by decide))
        (hx.folded_ne (by decide) (by decide))⟩

def comparisons : List String := ["=", "<>", "!=", "<=", ">=", "<", ">"]

theorem comparison_eq : comparison = choice (comparisons.map word) := rfl

theorem head?_ends_comparison {op : String} {rest : List Char} (hop : op ∈ comparisons)
    (h : c.Spans op.toList d) (hd : d.rest = ' ' :: rest) :
    (ends comparison c).head? = some d := by
  have hapart : ∀ op ∈ comparisons, ∀ v ∈ comparisons.takeWhile (· != op),
      ¬ v.toList.map folded <+: (op.toList ++ [' ']).map folded ∧
        ¬ (op.toList ++ [' ']).map folded <+: v.toList.map folded := by decide +kernel
  rw [comparison_eq]
  refine head?_ends_choice_word hop h fun v hv hprefix => ?_
  have hrest : c.rest = (op.toList ++ [' ']) ++ rest := by rw [h.rest, hd, List.append_assoc]; rfl
  rw [hrest] at hprefix
  exact (prefix_cases hprefix).elim (hapart op hop v hv).1 (hapart op hop v hv).2

theorem starts_ink_comparison {op : String} (hop : op ∈ comparisons) (more : List Char) :
    StartsOutside isBlank (op.toList ++ more) := by
  have hink : ∀ op ∈ comparisons, op.toList ≠ [] ∧ StartsOutside isBlank op.toList := by
    decide +kernel
  obtain ⟨hne, hstart⟩ := hink op hop
  obtain ⟨x, xs, hx⟩ := List.exists_cons_of_ne_nil hne
  rw [hx] at hstart ⊢
  exact startsOutside_cons.mpr (startsOutside_cons.mp hstart)

def comparisonText (left : List Char) (op : String) (right : List Char) : List Char :=
  left ++ ([' '] ++ (op.toList ++ ([' '] ++ right)))

theorem head?_ends_compared {p q : Pattern} {op : String} {right : List Char}
    (hop : op ∈ comparisons) (hright : ∀ more, StartsOutside isBlank (right ++ more))
    (hp : (ends p c).head? = some m) (h : m.Spans ([' '] ++ (op.toList ++ ([' '] ++ right))) d)
    (hq : ∀ e : Cursor, e.last = some ' ' → e.Spans right d → (ends q e).head? = some d) :
    (ends (compared p q) c).head? = some d := by
  obtain ⟨m₁, hspace₁, h⟩ := Cursor.spans_append.mp h
  obtain ⟨m₂, hoperator, h⟩ := Cursor.spans_append.mp h
  obtain ⟨m₃, hspace₂, hvalue⟩ := Cursor.spans_append.mp h
  have hm₁ : StartsOutside isBlank m₁.rest := hoperator.rest ▸ starts_ink_comparison hop m₂.rest
  have hm₃ : StartsOutside isBlank m₃.rest := hvalue.rest ▸ hright d.rest
  have hlast : m₃.last = some ' ' := hspace₂.last
  exact head?_ends_seq hp
    (head?_ends_seq (head?_ends_run0_spans (by decide) hspace₁ hm₁)
      (head?_ends_seq (head?_ends_comparison hop hoperator hspace₂.rest)
        (head?_ends_seq (head?_ends_run0_spans (by decide) hspace₂ hm₃)
          (head?_ends_seq (hq m₃ hlast hvalue) head?_ends_done))))

theorem OpensNumber.ink {x : Char} (hx : OpensNumber x) : isBlank x = false := by
  rcases hx with rfl | hx
  · decide
  · exact isBlank_of_isWord (isWord_of_isDecimal hx)

def BeginsValue (t : List Char) : Prop := ∃ x xs, t = x :: xs ∧ isBlank x = false ∧ x ≠ '('

theorem StringValue.begins (s : StringValue) : BeginsValue s.text := by
  cases s with
  | converted v =>
    obtain ⟨xs, hv⟩ := v.opens
    exact ⟨'C', xs, hv, by decide, by decide⟩
  | literal l =>
    obtain ⟨x, xs, hl, hx⟩ := l.opens
    have hother : ∀ x ∈ ['N', '\''], isBlank x = false ∧ x ≠ '(' := by decide
    exact ⟨x, xs, hl, hother x hx⟩

theorem NumericValue.begins (n : NumericValue) : BeginsValue n.text := by
  cases n with
  | converted v =>
    obtain ⟨xs, hv⟩ := v.opens
    exact ⟨'C', xs, hv, by decide, by decide⟩
  | literal l =>
    obtain ⟨x, xs, hl, hx⟩ := l.opens
    refine ⟨x, xs, hl, hx.ink, ?_⟩
    rintro rfl
    rcases hx with hx | hx <;> exact absurd hx (by decide)

theorem BeginsValue.append {t : List Char} (h : BeginsValue t) (more : List Char) :
    BeginsValue (t ++ more) := by
  obtain ⟨x, xs, rfl, hx, hne⟩ := h
  exact ⟨x, xs ++ more, rfl, hx, hne⟩

theorem BeginsValue.starts_ink {t : List Char} (h : BeginsValue t) (more : List Char) :
    StartsOutside isBlank (t ++ more) := by
  obtain ⟨x, xs, rfl, hx, -⟩ := h
  exact startsOutside_cons.mpr hx

theorem head?_ends_mixed {s : StringValue} {n : NumericValue} {op : String}
    (hop : op ∈ comparisons) (h : c.Spans (comparisonText s.text op n.text) d)
    (hd : Spaced d.rest) : (ends mixedComparison c).head? = some d := by
  obtain ⟨m, hs, h⟩ := Cursor.spans_append.mp h
  exact head?_ends_left (head?_ends_compared hop n.begins.starts_ink
    (head?_ends_stringExpression hs) h fun e hlast hn => head?_ends_numericExpression hlast hn hd)

theorem head?_ends_mixed_swapped {s : StringValue} {n : NumericValue} {op : String}
    (hop : op ∈ comparisons) (hlast : c.last = some ' ')
    (h : c.Spans (comparisonText n.text op s.text) d) :
    (ends mixedComparison c).head? = some d := by
  obtain ⟨m, hn, h⟩ := Cursor.spans_append.mp h
  have hm : Spaced m.rest := by
    intro x hx
    rw [h.rest] at hx
    exact (Option.some.inj hx).symm
  exact head?_ends_right (ends_seq_of_left (ends_stringExpression_of_numeric hn))
    (head?_ends_compared hop s.begins.starts_ink (head?_ends_numericExpression hlast hn hm) h
      fun e _ hs => head?_ends_stringExpression hs)

structure IsPlainText (t : List Char) : Prop where
  words : ∀ x ∈ t, isWord x = true ∨ x = ' '
  digits : DigitsFollow t

theorem IsPlainText.append {t t' : List Char} (h : IsPlainText t) (h' : IsPlainText t') :
    IsPlainText (t ++ t') :=
  ⟨List.forall_mem_append.mpr ⟨h.words, h'.words⟩, h.digits.append h'.digits⟩

theorem Identifier.isPlainText (name : Identifier) : IsPlainText name.text :=
  ⟨fun x hx => .inl (name.isWord_text x hx), name.digitsFollow⟩

def filterLead (c t : Identifier) : List Char :=
  ("SELECT ".toList ++ (c.text ++ (" FROM ".toList ++ (t.text ++ " WHERE".toList)))) ++ [' ']

theorem isPlainText_filterLead (c t : Identifier) : IsPlainText (filterLead c t) := by
  have hfixed : ∀ s ∈ ["SELECT ", " FROM ", " WHERE", " "], IsPlainText s.toList := by
    have hwords : ∀ s ∈ ["SELECT ", " FROM ", " WHERE", " "], ∀ x ∈ s.toList,
        (isWord x = true ∨ x = ' ') ∧ isDecimal x = false := by decide
    exact fun s hs => ⟨fun x hx => (hwords s hs x hx).1,
      digitsFollow_of_none fun x hx => (hwords s hs x hx).2⟩
  exact ((hfixed "SELECT " (by simp)).append (c.isPlainText.append
    ((hfixed " FROM " (by simp)).append (t.isPlainText.append (hfixed " WHERE" (by simp)))))).append
      (hfixed " " (by simp))

/-- A conversion begins with a word, and an opening parenthesis comes next. -/
theorem parenthesis_of_conversion {types : Pattern} (hd : d ∈ ends (conversionTo types) c) :
    ∃ v b rest, c.rest = v ++ (b ++ '(' :: rest) ∧ (∀ x ∈ v, isWord x = true) ∧
      ∀ x ∈ b, isBlank x = true := by
  have hopened : ∀ {s : String} {q : Pattern}, (∀ x ∈ s.toList, isWord x = true) →
      d ∈ ends (seq (word s) (seq blanks0 (seq (letter '(') q))) c →
      ∃ v b rest, c.rest = v ++ (b ++ '(' :: rest) ∧ (∀ x ∈ v, isWord x = true) ∧
        ∀ x ∈ b, isBlank x = true := by
    intro s q hs hd
    simp only [mem_ends_seq] at hd
    obtain ⟨m₁, hword, m₂, hblanks, m₃, hopen, -⟩ := hd
    obtain ⟨v, hv, hspan₁⟩ := mem_ends_word.mp hword
    obtain ⟨b, hb, hspan₂⟩ := mem_ends_run0.mp hblanks
    have hspan₃ := (mem_ends_mark (by decide)).mp hopen
    refine ⟨v, b, m₃.rest, ?_, isWord_of_folded hs hv, hb⟩
    rw [hspan₁.rest, hspan₂.rest, hspan₃.rest]
    rfl
  have hd : d ∈ ends (alt _ _) c := hd
  rw [ends, List.mem_append] at hd
  rcases hd with hd | hd
  · exact hopened (s := "CAST") (by decide) hd
  · exact hopened (s := "CONVERT") (by decide) hd

/-- No conversion begins in words and spaces that end with a space in front of a value. -/
theorem ends_conversion_of_plain {types : Pattern} {u body : List Char}
    (hwords : ∀ x ∈ u, isWord x = true ∨ x = ' ') (hlast : u.getLast? = some ' ')
    (hbody : BeginsValue body) (hc : c.rest = u ++ body) : ends (conversionTo types) c = [] := by
  rw [List.eq_nil_iff_forall_not_mem]
  intro d hd
  obtain ⟨v, b, rest, hrest, hv, hb⟩ := parenthesis_of_conversion hd
  have hspace : ∃ x ∈ u, isWord x = false := ⟨' ', List.mem_of_getLast? hlast, by decide⟩
  obtain ⟨w, -, rfl, hsplit⟩ := split_of_append_eq hv hspace (hrest.symm.trans hc)
  have hopen : StartsOutside isBlank ('(' :: rest) := startsOutside_cons.mpr (by decide)
  rcases all_or_split isBlank w with hw | ⟨s, x, t, rfl, hx, hs⟩
  · obtain ⟨y, ys, rfl, hy, hne⟩ := hbody
    obtain ⟨-, hsame⟩ := append_outside_inj hb hw hopen (startsOutside_cons.mpr hy) hsplit
    exact hne (List.cons.inj hsame).1.symm
  · rw [List.append_assoc, List.cons_append] at hsplit
    obtain ⟨-, hsame⟩ := append_outside_inj hb hs hopen (startsOutside_cons.mpr hx) hsplit
    obtain ⟨rfl, -⟩ := List.cons.inj hsame
    exact absurd (hwords '(' (by simp)) (by decide)

theorem ne_of_plain {x y : Char} (hx : isWord x = true ∨ x = ' ')
    (hy : isWord y = false ∧ y ≠ ' ') : x ≠ y := by
  rintro rfl
  rcases hx with hx | hx
  · simp [hy.1] at hx
  · exact hy.2 hx

theorem ends_quote_of_plain {x : Char} {xs : List Char} (hc : c.rest = x :: xs)
    (hx : isWord x = true ∨ x = ' ') : ends (letter '\'') c = [] :=
  ends_letter_of_not hc fun heq =>
    ne_of_plain hx (by decide) ((folded_eq_mark (by decide)).mp heq)

/-- No string literal begins in words and spaces that end with a space. -/
theorem ends_stringLiteral_of_plain {x : Char} {u body : List Char}
    (hwords : ∀ y ∈ x :: u, isWord y = true ∨ y = ' ') (hlast : (x :: u).getLast? = some ' ')
    (hc : c.rest = (x :: u) ++ body) : ends stringLiteral c = [] := by
  refine ends_seq_of_right fun e he => ends_seq_of_left ?_
  rw [Pattern.optional, ends, List.mem_append] at he
  rcases he with he | he
  · obtain ⟨y, hy, hspan⟩ := mem_ends_letter.mp he
    obtain ⟨rfl, hrest⟩ := List.cons.inj (hspan.rest.symm.trans hc)
    cases u with
    | nil =>
      obtain rfl : y = ' ' := by simpa using hlast
      exact absurd hy (by decide)
    | cons z u => exact ends_quote_of_plain hrest (hwords z (by simp))
  · obtain rfl := mem_ends_empty.mp he
    exact ends_quote_of_plain hc (hwords x (by simp))

/-- No number begins where every digit follows a word character. -/
theorem ends_numericLiteral_of_plain {x : Char} {s u body : List Char} (hm : c.Spans s m)
    (hdigits : DigitsFollow (s ++ x :: u)) (hx : isWord x = true ∨ x = ' ')
    (hrest : m.rest = (x :: u) ++ body) : ends numericLiteral m = [] := by
  rw [List.eq_nil_iff_forall_not_mem]
  intro g hg
  simp only [numericLiteral, sequence_cons, mem_ends_seq] at hg
  obtain ⟨_, hfree, e, hsign, f, hnumber, -⟩ := hg
  obtain ⟨hfree, rfl⟩ := mem_ends_notAfter.mp hfree
  obtain ⟨y, t, hy, -, hspan⟩ := mem_ends_run1.mp hnumber
  rw [Pattern.optional, ends, List.mem_append, mem_ends_mark (by decide)] at hsign
  rcases hsign with hsign | hsign
  · obtain ⟨rfl, -⟩ := List.cons.inj (hsign.rest.symm.trans hrest)
    exact ne_of_plain hx (by decide) rfl
  · obtain rfl := mem_ends_empty.mp hsign
    obtain ⟨rfl, -⟩ := List.cons.inj (hspan.rest.symm.trans hrest)
    obtain ⟨z, hz, hword⟩ := hdigits s y u rfl hy
    have hlast := hfree z (by rw [hm.last, hz, Option.some_or])
    simp [hword] at hlast

theorem clearOf_plain {t : List Char} (h : c.Spans t d) (ht : IsPlainText t)
    (hlast : t.getLast? = some ' ') (hbody : BeginsValue d.rest) :
    ClearOf [mixedComparison] c t := by
  rintro s x u m rfl hm
  have hrest : m.rest = (x :: u) ++ d.rest := hm.rest_within h
  have hwords : ∀ y ∈ x :: u, isWord y = true ∨ y = ' ' := fun y hy =>
    ht.words y (List.mem_append_right s hy)
  have hlast' : (x :: u).getLast? = some ' ' := by
    rwa [List.getLast?_append_of_ne_nil _ (List.cons_ne_nil x u)] at hlast
  have hliteral := ends_stringLiteral_of_plain hwords hlast' hrest
  have hnumber := ends_numericLiteral_of_plain hm ht.digits (hwords x (by simp)) hrest
  have hstring : ends stringExpression m = [] :=
    ends_alt_eq_nil.mpr ⟨ends_conversion_of_plain hwords hlast' hbody hrest, hliteral⟩
  have hnumeric : ends numericExpression m = [] :=
    ends_alt_eq_nil.mpr ⟨ends_conversion_of_plain hwords hlast' hbody hrest, hnumber⟩
  exact cuts_single (ends_alt_eq_nil.mpr ⟨ends_seq_of_left hstring, ends_seq_of_left hnumeric⟩)

def filterQuery (c t : Identifier) (comparison : List Char) : String :=
  String.ofList (filterLead c t ++ comparison)

theorem toList_filterQuery (c t : Identifier) (comparison : List Char) :
    (filterQuery c t comparison).toList = filterLead c t ++ comparison := String.toList_ofList

/-- A comparison across types that is the whole filter of a query is reported as it stands. -/
theorem reported_of_comparison {c t : Identifier} {comparison : List Char}
    (hbegins : BeginsValue comparison)
    (hfound : ∀ m d : Cursor, m.last = some ' ' → m.Spans comparison d → d.rest = [] →
      (ends mixedComparison m).head? = some d)
    (hnormal : normalize (filterQuery c t comparison) = filterQuery c t comparison) :
    reported .implicitConversion (filterQuery c t comparison) = .ok [String.ofList comparison] := by
  have hlast : (filterLead c t).getLast? = some ' ' := List.getLast?_concat
  have hlead := Cursor.spans_ofText (filterLead c t) comparison
  rw [hlast] at hlead
  have hspan : (⟨some ' ', comparison⟩ : Cursor).Spans comparison
      ⟨comparison.getLast?.or (some ' '), []⟩ := ⟨(List.append_nil _).symm, rfl⟩
  obtain ⟨h, hhit, htext, -⟩ := exists_hitAt? hspan (hfound _ _ rfl hspan rfl)
  have hfind : find? [mixedComparison] (Cursor.ofText (filterLead c t ++ comparison)) = some h := by
    rw [find?_clear (clearOf_plain hlead (isPlainText_filterLead c t) hlast hbegins) hlead]
    exact find?_hit hhit
  have hrule : (implicitConversionRule, IssueKind.implicitConversion) ∈
      rules.zip detectedKinds := by simp [rules, detectedKinds]
  have hink : ∃ x ∈ (filterQuery c t comparison).toList, isBlank x = false := by
    obtain ⟨x, xs, rfl, hx, -⟩ := hbegins
    exact ⟨x, by rw [toList_filterQuery]; simp, hx⟩
  rw [reported_of_normal hrule hnormal hink, toList_filterQuery]
  simp [implicitConversionRule, reportFirst, hfind, htext]

/-- A string value and a numeric value that are compared in the filter of a query are reported as
an implicit conversion, in either order, and the fragment is the comparison. -/
theorem implicit_conversions_are_found (c t : Identifier) (s : StringValue) (n : NumericValue)
    (op : String) (hop : op ∈ comparisons) :
    (normalize (filterQuery c t (comparisonText s.text op n.text)) =
        filterQuery c t (comparisonText s.text op n.text) →
      reported .implicitConversion (filterQuery c t (comparisonText s.text op n.text)) =
        .ok [String.ofList (comparisonText s.text op n.text)]) ∧
    (normalize (filterQuery c t (comparisonText n.text op s.text)) =
        filterQuery c t (comparisonText n.text op s.text) →
      reported .implicitConversion (filterQuery c t (comparisonText n.text op s.text)) =
        .ok [String.ofList (comparisonText n.text op s.text)]) := by
  constructor
  · refine reported_of_comparison (s.begins.append _) fun m d _ hspan hd => ?_
    exact head?_ends_mixed hop hspan fun x hx => by simp [hd] at hx
  · refine reported_of_comparison (n.begins.append _) fun m d hlast hspan _ => ?_
    exact head?_ends_mixed_swapped hop hlast hspan

def nameColumn : Identifier := ⟨'n', "ame".toList, by decide, by decide⟩

def stockTable : Identifier := ⟨'s', "tock".toList, by decide, by decide⟩

def castOfCast : StringValue := .converted
  { casts := true, type := "NVARCHAR", known := by decide
    size? := some ⟨.digits ⟨"10".toList, by decide, by decide⟩, none⟩
    value := "a AS VARCHAR".toList, flat := by decide }

def minusFiveAndAQuarter : NumericValue :=
  .literal ⟨true, ⟨"5".toList, by decide, by decide⟩, some ⟨"25".toList, by decide, by decide⟩⟩

def priceAsDecimal : NumericValue := .converted
  { casts := false, type := "DECIMAL", known := by decide
    size? := some ⟨.digits ⟨"10".toList, by decide, by decide⟩,
      some (true, ⟨"2".toList, by decide, by decide⟩)⟩
    value := "price".toList, flat := by decide }

def nationalTwelve : StringValue := .literal ⟨true, "12".toList, by decide⟩

theorem conversions_of_lookalikes_are_reported :
    reported .implicitConversion (filterQuery nameColumn stockTable
        (comparisonText castOfCast.text "<>" minusFiveAndAQuarter.text)) =
      .ok ["CAST(a AS VARCHAR AS NVARCHAR(10)) <> -5.25"] ∧
    reported .implicitConversion (filterQuery nameColumn stockTable
        (comparisonText priceAsDecimal.text ">=" nationalTwelve.text)) =
      .ok ["CONVERT(DECIMAL(10, 2), price) >= N'12'"] := by
  constructor
  · exact (implicit_conversions_are_found nameColumn stockTable castOfCast minusFiveAndAQuarter
      "<>" (by decide)).1 (by decide +kernel)
  · exact (implicit_conversions_are_found nameColumn stockTable nationalTwelve priceAsDecimal
      ">=" (by decide)).2 (by decide +kernel)

end QueryTuning.Query
