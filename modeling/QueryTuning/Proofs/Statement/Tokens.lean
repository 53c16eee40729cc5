import QueryTuning.Proofs.Lists
import QueryTuning.Proofs.Text.Runs
import QueryTuning.Proofs.Text.Ascii

/-!
# Tokens of a statement

A name is written as a word or between brackets, in which a closing bracket stands
twice. Which characters outside ASCII are letters or digits is left open. A quoted name
reads back as itself, and text whose closing brackets all stand twice has no name in
brackets that ends.
-/

set_option autoImplicit false

namespace QueryTuning.Statement

open Text

def doubled : List Char → List Char
  | [] => []
  | c :: cs => if c = ']' then ']' :: ']' :: doubled cs else c :: doubled cs

def quoted (name : List Char) : List Char := '[' :: (doubled name ++ [']'])

def closeQuote : List Char → Option (List Char × List Char)
  | [] => none
  | c :: cs =>
    if c = ']' then
      match cs with
      | ']' :: ds => (closeQuote ds).map fun p => (']' :: p.1, p.2)
      | _ => some ([], cs)
    else (closeQuote cs).map fun p => (c :: p.1, p.2)

theorem doubled_append (s t : List Char) : doubled (s ++ t) = doubled s ++ doubled t := by
  induction s with
  | nil => rfl
  | cons c s ih => by_cases hc : c = ']' <;> simp [doubled, hc, ih]

theorem doubled_plain {s : List Char} (h : ']' ∉ s) : doubled s = s := by
  induction s with
  | nil => rfl
  | cons c s ih =>
    have hc : c ≠ ']' := by
      rintro rfl
      simp at h
    rw [doubled, if_neg hc, ih (by simp_all)]

theorem doubled_intercalate {sep : List Char} (h : ']' ∉ sep) (xs : List (List Char)) :
    doubled (sep.intercalate xs) = sep.intercalate (xs.map doubled) := by
  induction xs with
  | nil => rfl
  | cons x xs ih =>
    by_cases hxs : xs = []
    · simp [hxs]
    · rw [List.map_cons, List.intercalate_cons_of_ne_nil hxs,
        List.intercalate_cons_of_ne_nil (by simpa using hxs), doubled_append, doubled_append,
        doubled_plain h, ih]

theorem doubled_ne_nil {s : List Char} (h : s ≠ []) : doubled s ≠ [] := by
  cases s with
  | nil => exact absurd rfl h
  | cons c s =>
    rw [doubled]
    split <;> simp

theorem closeQuote_cons {c : Char} (hc : c ≠ ']') (t : List Char) :
    closeQuote (c :: t) = (closeQuote t).map fun p => (c :: p.1, p.2) := by
  rw [closeQuote.eq_def]
  simp [hc]

theorem closeQuote_bracket {t : List Char} (ht : t.head? ≠ some ']') :
    closeQuote (']' :: t) = some ([], t) := by
  rw [closeQuote.eq_def]
  simp only [if_true]
  split
  · simp at ht
  · rfl

theorem closeQuote_twice (t : List Char) :
    closeQuote (']' :: ']' :: t) = (closeQuote t).map fun p => (']' :: p.1, p.2) := by
  rw [closeQuote.eq_def]
  simp

theorem closeQuote_doubled (s t : List Char) :
    closeQuote (doubled s ++ t) = (closeQuote t).map fun p => (s ++ p.1, p.2) := by
  induction s with
  | nil => simp [doubled]
  | cons c s ih =>
    by_cases hc : c = ']'
    · simp [doubled, hc, closeQuote_twice, ih, Function.comp_def]
    · simp [doubled, hc, closeQuote_cons hc, ih, Function.comp_def]

theorem closeQuote_quoted (s : List Char) {t : List Char} (ht : t.head? ≠ some ']') :
    closeQuote (doubled s ++ ']' :: t) = some (s, t) := by
  rw [closeQuote_doubled, closeQuote_bracket ht]
  simp

theorem closeQuote_open (s : List Char) : closeQuote (doubled s) = none := by
  have h := closeQuote_doubled s []
  rw [List.append_nil] at h
  rw [h]
  rfl

theorem closeQuote_shorter {text s rest : List Char} (h : closeQuote text = some (s, rest)) :
    rest.length < text.length := by
  fun_induction closeQuote text generalizing s with
  | case1 => cases h
  | case2 ds ih =>
    obtain ⟨⟨u, v⟩, hp, heq⟩ := Option.map_eq_some_iff.mp h
    cases heq
    exact Nat.lt_succ_of_lt (Nat.lt_succ_of_lt (ih hp))
  | case3 cs =>
    cases h
    exact Nat.lt_succ_self _
  | case4 c cs hc ih =>
    obtain ⟨⟨u, v⟩, hp, heq⟩ := Option.map_eq_some_iff.mp h
    cases heq
    exact Nat.lt_succ_of_lt (ih hp)

/-- A quoted name that is cut off may end between two brackets that stand for one. -/
theorem take_doubled (n : Nat) (s : List Char) :
    ∃ t, (doubled s).take n = doubled t ∨ (doubled s).take n = doubled t ++ [']'] := by
  induction s generalizing n with
  | nil => exact ⟨[], .inl (by simp [doubled])⟩
  | cons c s ih =>
    by_cases hc : c = ']'
    · match n with
      | 0 => exact ⟨[], .inl (by simp [doubled])⟩
      | 1 => exact ⟨[], .inr (by simp [doubled, hc])⟩
      | n + 2 =>
        obtain ⟨t, ht⟩ := ih n
        exact ⟨']' :: t, by simpa [doubled, hc] using ht⟩
    · match n with
      | 0 => exact ⟨[], .inl (by simp [doubled])⟩
      | n + 1 =>
        obtain ⟨t, ht⟩ := ih n
        exact ⟨c :: t, by simpa [doubled, hc] using ht⟩

/-- Cut names in brackets end after the last of them, or else before the mark between two of
them, or else where a name that begins after them does. -/
theorem closeQuote_joined {names : List (List Char)} {t : List Char}
    (hnames : ∀ p ∈ names, ∃ s, p = doubled s ∨ p = doubled s ++ [']'])
    (ht : t.head? ≠ some ']') {name rest : List Char}
    (h : closeQuote (['_'].intercalate names ++ ']' :: t) = some (name, rest)) :
    rest = t ∨ rest.head? = some '_' ∨ ∃ s, closeQuote t = some (s, rest) := by
  induction names generalizing name with
  | nil =>
    rw [List.intercalate_nil, List.nil_append, closeQuote_bracket ht] at h
    cases h
    exact .inl rfl
  | cons p names ih =>
    obtain ⟨s, hp⟩ := hnames p (by simp)
    by_cases hlast : names = []
    · rw [hlast, List.intercalate_singleton] at h
      rcases hp with rfl | rfl
      · rw [closeQuote_quoted s ht] at h
        cases h
        exact .inl rfl
      · -- The bracket that is cut off from its twin finds another one in the closing bracket.
        have hopen : closeQuote (doubled s ++ ']' :: ']' :: t) = some (name, rest) := by
          simpa using h
        rw [closeQuote_doubled, closeQuote_twice] at hopen
        obtain ⟨_, hq, heq⟩ := Option.map_eq_some_iff.mp hopen
        obtain ⟨⟨m, _⟩, hm, rfl⟩ := Option.map_eq_some_iff.mp hq
        cases heq
        exact .inr (.inr ⟨m, hm⟩)
    · rw [List.intercalate_cons_of_ne_nil hlast] at h
      rcases hp with rfl | rfl
      · have hnext : closeQuote (doubled s ++ '_' :: (['_'].intercalate names ++ ']' :: t)) =
            some (name, rest) := by simpa using h
        rw [closeQuote_doubled, closeQuote_cons (by decide)] at hnext
        obtain ⟨_, hq, heq⟩ := Option.map_eq_some_iff.mp hnext
        obtain ⟨⟨m, _⟩, hm, rfl⟩ := Option.map_eq_some_iff.mp hq
        cases heq
        exact ih (fun q hq => hnames q (by simp [hq])) hm
      · have hclosed : closeQuote (doubled s ++ ']' :: '_' ::
            (['_'].intercalate names ++ ']' :: t)) = some (name, rest) := by simpa using h
        rw [closeQuote_quoted s (by simp)] at hclosed
        cases hclosed
        exact .inr (.inl rfl)

structure Alphabet where
  letter : Char → Bool
  digit : Char → Bool
  letter_ascii : ∀ c, IsAscii c → letter c = c.isAlpha
  digit_ascii : ∀ c, IsAscii c → digit c = c.isDigit
  blank : ∀ c, isBlank c = true → letter c = false ∧ digit c = false

namespace Alphabet

def inName (A : Alphabet) (c : Char) : Bool :=
  A.letter c || A.digit c || c == '_' || c == '@' || c == '#' || c == '$'

def startsName (A : Alphabet) (c : Char) : Bool := A.inName c && !A.digit c

/-- A name that needs no brackets. -/
def Regular (A : Alphabet) (name : List Char) : Prop :=
  ∃ c cs, name = c :: cs ∧ A.startsName c = true ∧ ∀ d ∈ cs, A.inName d = true

variable (A : Alphabet)

theorem inName_of_startsName {c : Char} (h : A.startsName c = true) : A.inName c = true := by
  rw [startsName, Bool.and_eq_true] at h
  exact h.1

theorem inName_ascii {c : Char} (hc : IsAscii c) :
    A.inName c = (c.isAlpha || c.isDigit || c == '_' || c == '@' || c == '#' || c == '$') := by
  rw [inName, A.letter_ascii c hc, A.digit_ascii c hc]

theorem startsName_ascii {c : Char} (hc : IsAscii c) :
    A.startsName c = ((c.isAlpha || c.isDigit || c == '_' || c == '@' || c == '#' || c == '$') &&
      !c.isDigit) := by
  rw [startsName, A.inName_ascii hc, A.digit_ascii c hc]

theorem inName_blank {c : Char} (hc : isBlank c = true) : A.inName c = false := by
  obtain ⟨hletter, hdigit⟩ := A.blank c hc
  have hmarks : ∀ d ∈ ['_', '@', '#', '$'], isBlank d = false := by decide
  have hne : ∀ d ∈ ['_', '@', '#', '$'], c ≠ d := by
    rintro d hd rfl
    simp [hmarks c hd] at hc
  simp_all [inName]

theorem Regular.inName {A : Alphabet} {name : List Char} (h : A.Regular name) {c : Char}
    (hc : c ∈ name) : A.inName c = true := by
  obtain ⟨d, ds, rfl, hd, hds⟩ := h
  rcases List.mem_cons.mp hc with rfl | hc
  · exact A.inName_of_startsName hd
  · exact hds c hc

theorem Regular.no_bracket {A : Alphabet} {name : List Char} (h : A.Regular name) :
    ']' ∉ name := by
  intro hmem
  have := h.inName hmem
  rw [A.inName_ascii (by decide)] at this
  exact absurd this (by decide)

instance (name : List Char) : Decidable (A.Regular name) :=
  match name with
  | [] => .isFalse (by rintro ⟨_, _, h, _⟩; cases h)
  | c :: cs => decidable_of_iff (A.startsName c = true ∧ ∀ d ∈ cs, A.inName d = true)
      ⟨fun h => ⟨c, cs, rfl, h.1, h.2⟩, by rintro ⟨_, _, heq, h⟩; cases heq; exact h⟩

theorem regular_of_letters {name : List Char} (hne : name ≠ [])
    (h : ∀ c ∈ name, IsAscii c ∧ c.isAlpha = true ∧ c.isDigit = false) : A.Regular name := by
  obtain ⟨c, cs, rfl⟩ := List.exists_cons_of_ne_nil hne
  have hin : ∀ d ∈ c :: cs, A.inName d = true := by
    intro d hd
    rw [A.inName_ascii (h d hd).1]
    simp [(h d hd).2.1]
  refine ⟨c, cs, rfl, ?_, fun d hd => hin d (by simp [hd])⟩
  have hc := h c (by simp)
  rw [startsName, hin c (by simp), A.digit_ascii c hc.1]
  simp [hc.2.2]

def ascii : Alphabet where
  letter := Char.isAlpha
  digit := Char.isDigit
  letter_ascii _ _ := rfl
  digit_ascii _ _ := rfl
  blank c h := by
    have hcodes : ∀ n ∈ blankCodes,
        (Char.ofNat n).isAlpha = false ∧ (Char.ofNat n).isDigit = false := by
      decide
    simpa using hcodes c.toNat (mem_blankCodes h)

end Alphabet

inductive Token where
  | word (text : List Char)
  | quoted (text : List Char)
  | mark (c : Char)
  deriving DecidableEq

variable (A : Alphabet)

/-- The tokens of a text. A name in brackets that is never closed is none, and neither is a
closing bracket without an opening one. -/
def tokens (text : List Char) : Option (List Token) :=
  match text with
  | [] => some []
  | c :: cs =>
    if isBlank c then tokens cs
    else if c = '[' then
      match found : closeQuote cs with
      | none => none
      | some (name, rest) =>
        have := closeQuote_shorter found
        (tokens rest).map (.quoted name :: ·)
    else if c = ']' then none
    else if A.startsName c then
      have := (List.dropWhile_suffix A.inName (l := cs)).length_le
      (tokens (cs.dropWhile A.inName)).map (.word (c :: cs.takeWhile A.inName) :: ·)
    else (tokens cs).map (.mark c :: ·)
termination_by text.length

theorem tokens_nil : tokens A [] = some [] := by rw [tokens]

theorem tokens_blank {c : Char} (hc : isBlank c = true) (cs : List Char) :
    tokens A (c :: cs) = tokens A cs := by
  rw [tokens, if_pos hc]

theorem tokens_open {cs name rest : List Char} (h : closeQuote cs = some (name, rest)) :
    tokens A ('[' :: cs) = (tokens A rest).map (.quoted name :: ·) := by
  rw [tokens, if_neg (by decide), if_pos rfl]
  split
  next hnone => simp [h] at hnone
  next name' rest' hfound =>
    cases h.symm.trans hfound
    rfl

theorem tokens_unclosed {cs : List Char} (h : closeQuote cs = none) :
    tokens A ('[' :: cs) = none := by
  rw [tokens, if_neg (by decide), if_pos rfl]
  split
  · rfl
  next name rest hfound => simp [h] at hfound

theorem tokens_startsName {c : Char} (hc : A.startsName c = true) (cs : List Char) :
    tokens A (c :: cs) =
      (tokens A (cs.dropWhile A.inName)).map (.word (c :: cs.takeWhile A.inName) :: ·) := by
  have hname := A.inName_of_startsName hc
  have hblank : isBlank c ≠ true := by
    intro h
    simp [A.inName_blank h] at hname
  have hbrackets : c ≠ '[' ∧ c ≠ ']' := by
    constructor <;> rintro rfl <;> rw [A.inName_ascii (by decide)] at hname <;>
      exact absurd hname (by decide)
  rw [tokens, if_neg hblank, if_neg hbrackets.1, if_neg hbrackets.2, if_pos hc]

theorem tokens_word {name rest : List Char} (hname : A.Regular name)
    (hrest : StartsOutside A.inName rest) :
    tokens A (name ++ rest) = (tokens A rest).map (.word name :: ·) := by
  obtain ⟨c, cs, rfl, hc, hcs⟩ := hname
  have hdrop : rest.dropWhile A.inName = rest ∧ rest.takeWhile A.inName = [] := by
    cases rest with
    | nil => simp
    | cons d ds => simp [startsOutside_cons.mp hrest]
  rw [List.cons_append, tokens_startsName A hc, List.dropWhile_append_of_pos hcs, hdrop.1,
    List.takeWhile_append_of_pos hcs, hdrop.2, List.append_nil]

theorem tokens_mark {c : Char} (hc : isBlank c = false ∧ c ≠ '[' ∧ c ≠ ']')
    (hname : A.startsName c = false) (cs : List Char) :
    tokens A (c :: cs) = (tokens A cs).map (.mark c :: ·) := by
  rw [tokens, if_neg (by simp [hc.1]), if_neg hc.2.1, if_neg hc.2.2, if_neg (by simp [hname])]

inductive Reading (A : Alphabet) : List Char → List Token → Prop
  | nil : Reading A [] []
  | blank {c : Char} {cs : List Char} {ts : List Token} (hc : isBlank c = true)
      (h : Reading A cs ts) : Reading A (c :: cs) ts
  | name {cs name rest : List Char} {ts : List Token} (hclose : closeQuote cs = some (name, rest))
      (h : Reading A rest ts) : Reading A ('[' :: cs) (.quoted name :: ts)
  | word {name rest : List Char} {ts : List Token} (hname : A.Regular name)
      (h : Reading A rest ts) : Reading A (name ++ rest) (.word name :: ts)
  | mark {c : Char} {cs : List Char} {ts : List Token} (hopen : c ≠ '[') (hclose : c ≠ ']')
      (h : Reading A cs ts) : Reading A (c :: cs) (.mark c :: ts)

theorem reading_of_tokens {text : List Char} {ts : List Token} (h : tokens A text = some ts) :
    Reading A text ts := by
  fun_induction tokens A text generalizing ts with
  | case1 =>
    cases h
    exact .nil
  | case2 c cs hblank ih => exact .blank hblank (ih h)
  | case3 cs => cases h
  | case4 cs name rest hclose _ _ ih =>
    obtain ⟨us, hus, rfl⟩ := Option.map_eq_some_iff.mp h
    exact .name hclose (ih hus)
  | case5 cs => cases h
  | case6 c cs hblank hopen hclose hstart _ ih =>
    obtain ⟨us, hus, rfl⟩ := Option.map_eq_some_iff.mp h
    have hname : A.Regular (c :: cs.takeWhile A.inName) :=
      ⟨c, _, rfl, hstart, List.all_eq_true.mp List.all_takeWhile⟩
    have hword := Reading.word hname (ih hus)
    rwa [List.cons_append, List.takeWhile_append_dropWhile] at hword
  | case7 c cs hblank hopen hclose hstart ih =>
    obtain ⟨us, hus, rfl⟩ := Option.map_eq_some_iff.mp h
    exact .mark hopen hclose (ih hus)

theorem exists_rest_doubled {u rest s : List Char} (hu : ']' ∉ u) (h : u ++ rest = doubled s) :
    ∃ t, rest = doubled t := by
  induction u generalizing s with
  | nil => exact ⟨s, h⟩
  | cons c u ih =>
    cases s with
    | nil => cases h
    | cons d s =>
      by_cases hd : d = ']'
      · simp_all [doubled]
      · rw [doubled, if_neg hd] at h
        exact ih (by simp_all) (List.cons.inj h).2

/-- In text whose closing brackets all stand twice every name is a word. -/
theorem words_of_reading_doubled {text s : List Char} {ts : List Token} (h : Reading A text ts)
    (hs : text = doubled s) :
    ∀ t ∈ ts, (∃ name, t = .word name ∧ A.Regular name) ∨ ∃ c, t = .mark c := by
  induction h generalizing s with
  | nil => simp
  | @blank c cs ts hc _ ih =>
    have hplain : ']' ∉ [c] := by
      rw [List.mem_singleton]
      rintro rfl
      revert hc
      decide
    obtain ⟨t, ht⟩ := exists_rest_doubled hplain hs
    exact ih ht
  | name hclose _ _ =>
    obtain ⟨t, rfl⟩ := exists_rest_doubled (u := ['[']) (by decide) hs
    cases (closeQuote_open t).symm.trans hclose
  | word hname _ ih =>
    obtain ⟨t, ht⟩ := exists_rest_doubled hname.no_bracket hs
    exact List.forall_mem_cons.mpr ⟨.inl ⟨_, rfl, hname⟩, ih ht⟩
  | @mark c cs ts _ hclose _ ih =>
    obtain ⟨t, ht⟩ := exists_rest_doubled (u := [c]) (by simpa using hclose.symm) hs
    exact List.forall_mem_cons.mpr ⟨.inr ⟨_, rfl⟩, ih ht⟩

inductive Part where
  | keyword (word : List Char)
  | name (text : List Char)
  | anyName
  | mark (c : Char)

def Part.Fits : Part → Token → Prop
  | keyword word, t => t = .word word
  | name text, t => t = .word text ∨ t = .quoted text
  | anyName, t => ∃ text, t = .word text ∨ t = .quoted text
  | mark c, t => t = .mark c

def ReadsAs (text : List Char) (parts : List Part) : Prop :=
  ∃ ts, tokens A text = some ts ∧ List.Forall₂ Part.Fits parts ts

variable {A} {text rest : List Char} {parts : List Part}

theorem readsAs_nil : ReadsAs A [] [] := ⟨[], tokens_nil A, .nil⟩

theorem readsAs_cons {t : Token} {p : Part}
    (h : tokens A text = (tokens A rest).map (t :: ·)) :
    ReadsAs A text (p :: parts) ↔ p.Fits t ∧ ReadsAs A rest parts := by
  rw [ReadsAs, h, ReadsAs]
  constructor
  · rintro ⟨ts, hts, hfits⟩
    obtain ⟨us, hus, rfl⟩ := Option.map_eq_some_iff.mp hts
    rw [List.forall₂_cons] at hfits
    exact ⟨hfits.1, us, hus, hfits.2⟩
  · rintro ⟨hp, us, hus, hfits⟩
    exact ⟨t :: us, by rw [hus]; rfl, .cons hp hfits⟩

theorem readsAs_blank {c : Char} (hc : isBlank c = true) :
    ReadsAs A (c :: rest) parts ↔ ReadsAs A rest parts := by
  rw [ReadsAs, tokens_blank A hc, ReadsAs]

theorem readsAs_keyword {word : List Char} (hword : A.Regular word)
    (hrest : StartsOutside A.inName rest) :
    ReadsAs A (word ++ rest) (.keyword word :: parts) ↔ ReadsAs A rest parts := by
  rw [readsAs_cons (tokens_word A hword hrest)]
  exact and_iff_right rfl

theorem readsAs_quoted {name : List Char} (hrest : rest.head? ≠ some ']') :
    ReadsAs A (quoted name ++ rest) (.name name :: parts) ↔ ReadsAs A rest parts := by
  have htext : quoted name ++ rest = '[' :: (doubled name ++ ']' :: rest) := by simp [quoted]
  rw [htext, readsAs_cons (tokens_open A (closeQuote_quoted name hrest))]
  exact and_iff_right (.inr rfl)

theorem readsAs_word {name : List Char} (hname : A.Regular name)
    (hrest : StartsOutside A.inName rest) :
    ReadsAs A (name ++ rest) (.name name :: parts) ↔ ReadsAs A rest parts := by
  rw [readsAs_cons (tokens_word A hname hrest)]
  exact and_iff_right (.inl rfl)

theorem readsAs_anyName {cs : List Char} :
    ReadsAs A ('[' :: cs) (.anyName :: parts) ↔
      ∃ name rest, closeQuote cs = some (name, rest) ∧ ReadsAs A rest parts := by
  cases hclose : closeQuote cs with
  | none => simp [ReadsAs, tokens_unclosed A hclose]
  | some found =>
    obtain ⟨name, rest⟩ := found
    rw [readsAs_cons (tokens_open A hclose)]
    constructor
    · rintro ⟨_, hrest⟩
      exact ⟨name, rest, rfl, hrest⟩
    · rintro ⟨_, _, heq, hrest⟩
      cases heq
      exact ⟨⟨name, .inr rfl⟩, hrest⟩

theorem readsAs_mark {c : Char} (hc : isBlank c = false ∧ c ≠ '[' ∧ c ≠ ']')
    (hname : A.startsName c = false) :
    ReadsAs A (c :: rest) (.mark c :: parts) ↔ ReadsAs A rest parts := by
  rw [readsAs_cons (tokens_mark A hc hname rest)]
  exact and_iff_right rfl

theorem outside_punctuation {c : Char} (hc : c ∈ [' ', '.', ',', '(', ')']) (s : List Char) :
    StartsOutside A.inName (c :: s) := by
  have hascii : IsAscii c := by
    revert c
    decide
  rw [startsOutside_cons, A.inName_ascii hascii]
  revert c
  decide

theorem readsAs_punctuation {c : Char} (hc : c ∈ ['.', ',', '(', ')']) :
    ReadsAs A (c :: rest) (.mark c :: parts) ↔ ReadsAs A rest parts := by
  have hmark : isBlank c = false ∧ c ≠ '[' ∧ c ≠ ']' := by
    revert c
    decide
  have hout : A.inName c = false :=
    startsOutside_cons.mp (outside_punctuation (List.mem_cons_of_mem ' ' hc) rest)
  exact readsAs_mark hmark (by simp [Alphabet.startsName, hout])

theorem readsAs_letters {word : List Char} (hne : word ≠ [])
    (h : ∀ c ∈ word, IsAscii c ∧ c.isAlpha = true ∧ c.isDigit = false) :
    ReadsAs A (word ++ ' ' :: rest) (.keyword word :: parts) ↔ ReadsAs A rest parts := by
  rw [readsAs_keyword (A.regular_of_letters hne h) (outside_punctuation (by simp) rest),
    readsAs_blank (by decide)]

/-- A list in parentheses, after the one that opens it. -/
theorem readsAs_list {α : Type} {f : α → List Char} {g : α → List Part} {xs : List α}
    (h : ∀ x ∈ xs, ∀ rest parts, StartsOutside A.inName rest →
      (ReadsAs A (f x ++ rest) (g x ++ parts) ↔ ReadsAs A rest parts)) :
    ReadsAs A ([',', ' '].intercalate (xs.map f) ++ ')' :: rest)
      ([.mark ','].intercalate (xs.map g) ++ .mark ')' :: parts) ↔ ReadsAs A rest parts := by
  induction xs with
  | nil => exact readsAs_punctuation (by simp)
  | cons x xs ih =>
    have hx := h x (by simp)
    by_cases hlast : xs = []
    · rw [hlast, List.map_singleton, List.map_singleton, List.intercalate_singleton,
        List.intercalate_singleton, hx _ _ (outside_punctuation (by simp) _),
        readsAs_punctuation (by simp)]
    · rw [List.map_cons, List.map_cons, List.intercalate_cons_of_ne_nil (by simpa using hlast),
        List.intercalate_cons_of_ne_nil (by simpa using hlast)]
      simp only [List.append_assoc, List.cons_append, List.nil_append]
      rw [hx _ _ (outside_punctuation (by simp) _), readsAs_punctuation (by simp),
        readsAs_blank (by decide)]
      exact ih fun y hy => h y (by simp [hy])

/-- Names that are read without brackets need none. -/
theorem regular_of_readsAs_doubled {s : List Char} (h : ReadsAs A (doubled s) parts)
    {name : List Char} (hname : .name name ∈ parts) : A.Regular name := by
  obtain ⟨ts, hts, hfits⟩ := h
  have hwords := words_of_reading_doubled A (reading_of_tokens A hts) rfl
  clear hts
  induction hfits with
  | nil => simp at hname
  | @cons p t parts ts hp _ ih =>
    rcases List.mem_cons.mp hname with rfl | hname
    · rcases hwords t (by simp) with ⟨word, rfl, hword⟩ | ⟨c, rfl⟩
      · rcases hp with hp | hp
        · cases hp
          exact hword
        · cases hp
      · rcases hp with hp | hp <;> cases hp
    · exact ih hname fun u hu => hwords u (by simp [hu])

end QueryTuning.Statement
