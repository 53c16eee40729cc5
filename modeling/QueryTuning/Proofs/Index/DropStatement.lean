import QueryTuning.Proofs.Index.Duplicates
import QueryTuning.Proofs.Statement.Tokens

/-!
# Statements that drop an index

A redundant index is reported with a statement that drops it. Its names are put between
brackets as they are, so the statement names the index exactly if none of them holds a
closing bracket. The proof counts brackets: each bracket of a text that can be read
belongs to a name in brackets, in which a closing one stands twice.
-/

set_option autoImplicit false

namespace QueryTuning

namespace Statement

open Text

variable {A : Alphabet}

def Token.opened : Token → Nat
  | .quoted text => text.count '[' + 1
  | _ => 0

def Token.closed : Token → Nat
  | .quoted text => 2 * text.count ']' + 1
  | _ => 0

@[simp] theorem Token.opened_word (text : List Char) : (Token.word text).opened = 0 := rfl

@[simp] theorem Token.opened_quoted (text : List Char) :
    (Token.quoted text).opened = text.count '[' + 1 := rfl

@[simp] theorem Token.opened_mark (c : Char) : (Token.mark c).opened = 0 := rfl

@[simp] theorem Token.closed_word (text : List Char) : (Token.word text).closed = 0 := rfl

@[simp] theorem Token.closed_quoted (text : List Char) :
    (Token.quoted text).closed = 2 * text.count ']' + 1 := rfl

@[simp] theorem Token.closed_mark (c : Char) : (Token.mark c).closed = 0 := rfl

theorem count_of_closeQuote {text name rest : List Char}
    (h : closeQuote text = some (name, rest)) :
    text.count '[' = name.count '[' + rest.count '[' ∧
      text.count ']' = 2 * name.count ']' + 1 + rest.count ']' := by
  fun_induction closeQuote text generalizing name with
  | case1 => simp at h
  | case2 ds ih =>
    obtain ⟨⟨u, v⟩, hp, heq⟩ := Option.map_eq_some_iff.mp h
    cases heq
    obtain ⟨hopen, hclose⟩ := ih hp
    simp [hopen, hclose]
    omega
  | case3 =>
    cases h
    simp
    omega
  | case4 c cs hc ih =>
    obtain ⟨⟨u, v⟩, hp, heq⟩ := Option.map_eq_some_iff.mp h
    cases heq
    obtain ⟨hopen, hclose⟩ := ih hp
    simp only [List.count_cons, beq_iff_eq, if_neg hc, hopen, hclose]
    omega

theorem Alphabet.Regular.count_brackets {name : List Char} (h : A.Regular name) :
    name.count '[' = 0 ∧ name.count ']' = 0 := by
  refine ⟨List.count_eq_zero.mpr fun hmem => ?_, List.count_eq_zero.mpr h.no_bracket⟩
  have hin := h.inName hmem
  rw [A.inName_ascii (by decide)] at hin
  exact absurd hin (by decide)

/-- The brackets of a text that can be read are those of its tokens. -/
theorem Reading.count {text : List Char} {ts : List Token} (h : Reading A text ts) :
    text.count '[' = (ts.map Token.opened).sum ∧ text.count ']' = (ts.map Token.closed).sum := by
  induction h with
  | nil => simp
  | @blank c cs ts hc _ ih =>
    have hne : c ≠ '[' ∧ c ≠ ']' := by
      constructor <;> rintro rfl <;> exact absurd hc (by decide)
    rwa [List.count_cons_of_ne hne.1, List.count_cons_of_ne hne.2]
  | name hclose _ ih =>
    obtain ⟨hopened, hclosed⟩ := count_of_closeQuote hclose
    simp only [List.map_cons, List.sum_cons, Token.opened_quoted, Token.closed_quoted,
      List.count_cons_self, List.count_cons_of_ne (show '[' ≠ ']' by decide)]
    omega
  | word hname _ ih =>
    obtain ⟨hopened, hclosed⟩ := hname.count_brackets
    simp only [List.count_append, List.map_cons, List.sum_cons, Token.opened_word,
      Token.closed_word]
    omega
  | mark hopen hclose _ ih =>
    simpa [List.count_cons_of_ne hopen, List.count_cons_of_ne hclose] using ih

/-- A name reads back as a word without brackets or with as many as it needs. -/
theorem Part.Fits.count {name : List Char} {t : Token} (h : (Part.name name).Fits t) :
    t.opened ≤ name.count '[' + 1 ∧ (t.opened = name.count '[' + 1 →
      t.closed = 2 * name.count ']' + 1) := by
  rcases h with rfl | rfl <;> simp

end Statement

namespace Index

open Statement Text

def Drops (A : Alphabet) (text schema table name : List Char) : Prop :=
  ReadsAs A text [.keyword "DROP".toList, .keyword "INDEX".toList, .name name,
    .keyword "ON".toList, .name schema, .mark '.', .name table]

variable {A : Alphabet} {text schema table name : List Char}

theorem drops_iff :
    Drops A text schema table name ↔ ∃ n s t, tokens A text =
        some [.word "DROP".toList, .word "INDEX".toList, n, .word "ON".toList, s, .mark '.', t] ∧
      (Part.name name).Fits n ∧ (Part.name schema).Fits s ∧ (Part.name table).Fits t := by
  constructor
  · rintro ⟨ts, hts, hfits⟩
    simp only [List.forall₂_cons_left_iff, List.forall₂_nil_left_iff] at hfits
    obtain ⟨_, _, rfl, ⟨_, _, rfl, ⟨n, _, hn, ⟨_, _, rfl, ⟨s, _, hs, ⟨_, _, rfl, ⟨t, _, ht, rfl,
      rfl⟩, rfl⟩, rfl⟩, rfl⟩, rfl⟩, rfl⟩, rfl⟩ := hfits
    exact ⟨n, s, t, hts, hn, hs, ht⟩
  · rintro ⟨n, s, t, hts, hn, hs, ht⟩
    exact ⟨_, hts, .cons rfl (.cons rfl (.cons hn (.cons rfl (.cons hs (.cons rfl
      (.cons ht .nil))))))⟩

/-- A statement drops one index. -/
theorem Drops.unique {schema' table' name' : List Char} (h : Drops A text schema table name)
    (h' : Drops A text schema' table' name') :
    schema' = schema ∧ table' = table ∧ name' = name := by
  obtain ⟨n, s, t, hts, hn, hs, ht⟩ := drops_iff.mp h
  obtain ⟨n', s', t', hts', hn', hs', ht'⟩ := drops_iff.mp h'
  have hsame : ∀ {x x' : List Char} {t : Token}, (Part.name x).Fits t → (Part.name x').Fits t →
      x' = x := by
    rintro x x' t (rfl | rfl) (h | h) <;> cases h <;> rfl
  cases hts.symm.trans hts'
  exact ⟨hsame hs hs', hsame ht ht', hsame hn hn'⟩

/-- A statement whose names stand between brackets, with each closing one twice, drops the index
of these names. -/
theorem drops_quoted (schema table name : List Char) :
    Drops A ("DROP".toList ++ ' ' :: ("INDEX".toList ++ ' ' :: (quoted name ++ ' ' ::
      ("ON".toList ++ ' ' :: (quoted schema ++ '.' :: quoted table))))) schema table name := by
  rw [Drops, ← List.append_nil (quoted table), readsAs_letters (by decide) (by decide),
    readsAs_letters (by decide) (by decide), readsAs_quoted (by simp), readsAs_blank (by decide),
    readsAs_letters (by decide) (by decide), readsAs_quoted (by simp),
    readsAs_punctuation (by simp), readsAs_quoted (by simp)]
  exact readsAs_nil

def bracketed (name : List Char) : List Char := '[' :: (name ++ [']'])

theorem bracketed_plain (h : ']' ∉ name) : bracketed name = quoted name := by
  rw [bracketed, quoted, doubled_plain h]

section

variable {schema table name : String}

theorem dropStatement_toList (schema table name : String) :
    (dropStatement (.text schema) (.text table) (.text name)).toList =
      "DROP".toList ++ ' ' :: ("INDEX".toList ++ ' ' :: (bracketed name.toList ++ ' ' ::
        ("ON".toList ++ ' ' :: (bracketed schema.toList ++ '.' :: bracketed table.toList)))) := by
  rw [dropStatement_text]
  simp [bracketed]

theorem drops_of_plain (hname : ']' ∉ name.toList) (hschema : ']' ∉ schema.toList)
    (htable : ']' ∉ table.toList) :
    Drops A (dropStatement (.text schema) (.text table) (.text name)).toList schema.toList
      table.toList name.toList := by
  rw [dropStatement_toList, bracketed_plain hname, bracketed_plain hschema, bracketed_plain htable]
  exact drops_quoted _ _ _

/-- The text has an opening bracket for each name beside those of the names. So each name is read
between brackets, and one that held a closing bracket would need another one. -/
theorem plain_of_drops
    (h : Drops A (dropStatement (.text schema) (.text table) (.text name)).toList schema.toList
      table.toList name.toList) :
    ']' ∉ name.toList ∧ ']' ∉ schema.toList ∧ ']' ∉ table.toList := by
  obtain ⟨n, s, t, hts, hn, hs, ht⟩ := drops_iff.mp h
  obtain ⟨hopened, hclosed⟩ := (reading_of_tokens A hts).count
  rw [dropStatement_toList] at hopened hclosed
  simp only [bracketed] at hopened hclosed
  have hopened : name.toList.count '[' + schema.toList.count '[' + table.toList.count '[' + 3 =
      n.opened + s.opened + t.opened := by
    simp at hopened
    omega
  have hclosed : name.toList.count ']' + schema.toList.count ']' + table.toList.count ']' + 3 =
      n.closed + s.closed + t.closed := by
    simp at hclosed
    omega
  obtain ⟨hn, hn'⟩ := hn.count
  obtain ⟨hs, hs'⟩ := hs.count
  obtain ⟨ht, ht'⟩ := ht.count
  simp only [← List.count_eq_zero]
  omega

end

/-- A report is about an index of the catalog, under its names. -/
theorem exists_named_of_report {rows : List Row} {entries : List Entry}
    (h : List.Forall₂ Tells rows entries) :
    ∃ reports, findRedundant rows = .ok reports ∧ ∀ r ∈ reports, ∃ k name,
      IsNamed entries k name ∧ r.schema = .text k.schema ∧ r.table = .text k.table ∧
        r.name = .text name := by
  obtain ⟨ks, ts, -, hks, -, hts, hfind⟩ := findRedundant_tells h
  refine ⟨_, hfind, fun r hr => ?_⟩
  obtain ⟨k, hk, rfl⟩ := List.mem_map.mp hr
  have hmentioned := (hks k).mp ((mem_repeatedAmong hts).mp hk).1
  obtain ⟨name, hname, heq⟩ := isNamed_indexOf hmentioned
  exact ⟨k, name, hname, rfl, rfl, heq⟩

/-- The redundant indexes of a catalog are found, each with a statement. If no name holds a closing
bracket, the statement drops the index that its report names and no other one; if one of them does,
the statement does not drop this index. -/
theorem dropStatement_drops_what_it_names (A : Alphabet) {rows : List Row} {entries : List Entry}
    (hrows : List.Forall₂ Tells rows entries) :
    ∃ reports, findRedundant rows = .ok reports ∧ ∀ r ∈ reports, ∃ k name,
      IsNamed entries k name ∧
      r.schema = .text k.schema ∧ r.table = .text k.table ∧ r.name = .text name ∧
      ((∀ s ∈ [name, k.schema, k.table], ']' ∉ s.toList) → ∀ schema table other,
        Drops A r.dropStatement.toList schema table other ↔
          schema = k.schema.toList ∧ table = k.table.toList ∧ other = name.toList) ∧
      ((∃ s ∈ [name, k.schema, k.table], ']' ∈ s.toList) →
        ¬ Drops A r.dropStatement.toList k.schema.toList k.table.toList name.toList) := by
  obtain ⟨reports, hfind, hnamed⟩ := exists_named_of_report hrows
  refine ⟨reports, hfind, fun r hr => ?_⟩
  obtain ⟨k, name, hname, hschema, htable, heq⟩ := hnamed r hr
  have hstatement :
      r.dropStatement = dropStatement (.text k.schema) (.text k.table) (.text name) := by
    rw [← hschema, ← htable, ← heq]
    exact dropsItself_of_found hfind r hr
  refine ⟨k, name, hname, hschema, htable, heq, ?_, ?_⟩ <;> rw [hstatement]
  · intro hplain schema table other
    have hown := drops_of_plain (A := A) (hplain name (by simp)) (hplain k.schema (by simp))
      (hplain k.table (by simp))
    constructor
    · exact hown.unique
    · rintro ⟨rfl, rfl, rfl⟩
      exact hown
  · rintro hbracket hown
    obtain ⟨hname, hschema, htable⟩ := plain_of_drops hown
    simp only [List.mem_cons, List.not_mem_nil, or_false, exists_eq_or_imp, exists_eq_left]
      at hbracket
    rcases hbracket with h | h | h
    exacts [hname h, hschema h, htable h]

def twins (schema table name : String) : List Entry :=
  [⟨⟨schema, table, 1⟩, "IX_A", ⟨"Day", 1, false, false⟩⟩,
    ⟨⟨schema, table, 2⟩, name, ⟨"Day", 1, false, false⟩⟩]

theorem exists_twin (schema table name : String) :
    ∃ reports, findRedundant ((twins schema table name).map rowOf) = .ok reports ∧
      ∃ r ∈ reports, r.schema = .text schema ∧ r.table = .text table ∧ r.name = .text name := by
  have hcolumns : ∀ e ∈ twins schema table name,
      columnsOf (twins schema table name) e.index = [⟨"Day", 1, false, false⟩] := by
    simp [twins, columnsOf]
  have hc : Consistent (twins schema table name) :=
    ⟨by simp [twins], fun e he => by rw [hcolumns e he]; decide, by simp [twins]⟩
  obtain ⟨keys, reports, hfind, hrepeats, htold⟩ := exists_reports (tells_rows _) hc
  have hfirst : Mentioned (twins schema table name) ⟨schema, table, 1⟩ := ⟨_, .head _, rfl⟩
  have hsecond : Mentioned (twins schema table name) ⟨schema, table, 2⟩ :=
    ⟨_, .tail _ (.head _), rfl⟩
  have halike : Alike (twins schema table name) ⟨schema, table, 1⟩ ⟨schema, table, 2⟩ :=
    ⟨rfl, fun c => by simp [columnsOf, twins]⟩
  have hmem : ⟨schema, table, 2⟩ ∈ keys :=
    (hrepeats.mem_iff _).mpr ⟨hsecond, _, hfirst, Int.lt_succ 1, halike⟩
  obtain ⟨r, hr, other, first, firstName, ⟨e, he, hindex, hname⟩, -, -, hreport⟩ :=
    exists_of_mem_left htold hmem
  have hnamed : other = name := by
    simp only [twins, List.mem_cons, List.not_mem_nil, or_false] at he
    rcases he with rfl | rfl
    · simp at hindex
    · exact hname.symm
  refine ⟨reports, hfind, r, hr, ?_⟩
  rw [hreport, hnamed]
  exact ⟨rfl, rfl, rfl⟩

/-- Brackets that open, blanks, quotes and semicolons stay inside their names. -/
theorem odd_names_are_dropped :
    let entries := twins "web.shop" "Order; 'Lines'" "IX [Day"
    List.Forall₂ Tells (entries.map rowOf) entries ∧
      ∃ reports, findRedundant (entries.map rowOf) = .ok reports ∧ ∃ r ∈ reports,
        r.name = .text "IX [Day" ∧
        Drops .ascii r.dropStatement.toList "web.shop".toList "Order; 'Lines'".toList
          "IX [Day".toList := by
  intro entries
  have hrows := tells_rows entries
  obtain ⟨reports, hfind, hall⟩ := dropStatement_drops_what_it_names .ascii hrows
  obtain ⟨found, hfound, r, hr, hschema, htable, hname⟩ :=
    exists_twin "web.shop" "Order; 'Lines'" "IX [Day"
  obtain rfl := Except.ok.inj (hfind.symm.trans hfound)
  obtain ⟨k, name, -, hs, ht, hn, hdrops, -⟩ := hall r hr
  rw [Cell.text.inj (hs.symm.trans hschema), Cell.text.inj (ht.symm.trans htable),
    Cell.text.inj (hn.symm.trans hname)] at hdrops
  exact ⟨hrows, reports, hfound, r, hr, hname, (hdrops (by decide) _ _ _).mpr ⟨rfl, rfl, rfl⟩⟩

/-- In the name of an index two closing brackets stand for one, so the statement drops another
index than the one it was made for. -/
theorem doubled_bracket_drops_another_index :
    ∃ reports, findRedundant ((twins "dbo" "Orders" "IX]]B").map rowOf) = .ok reports ∧
      ∃ r ∈ reports, r.name = .text "IX]]B" ∧
        r.dropStatement = "DROP INDEX [IX]]B] ON [dbo].[Orders]" ∧
        Drops .ascii r.dropStatement.toList "dbo".toList "Orders".toList "IX]B".toList ∧
        ¬ Drops .ascii r.dropStatement.toList "dbo".toList "Orders".toList "IX]]B".toList := by
  obtain ⟨reports, hfind, r, hr, hschema, htable, hname⟩ := exists_twin "dbo" "Orders" "IX]]B"
  have hdrops : r.dropStatement = "DROP INDEX [IX]]B] ON [dbo].[Orders]" := by
    rw [dropsItself_of_found hfind r hr, hschema, htable, hname]
    decide +kernel
  have hother : Drops .ascii "DROP INDEX [IX]]B] ON [dbo].[Orders]".toList "dbo".toList
      "Orders".toList "IX]B".toList := by
    have htext : "DROP INDEX [IX]]B] ON [dbo].[Orders]".toList =
        "DROP".toList ++ ' ' :: ("INDEX".toList ++ ' ' :: (quoted "IX]B".toList ++ ' ' ::
          ("ON".toList ++ ' ' :: (quoted "dbo".toList ++ '.' :: quoted "Orders".toList)))) := by
      decide +kernel
    rw [htext]
    exact drops_quoted _ _ _
  refine ⟨reports, hfind, r, hr, hname, hdrops, hdrops ▸ hother, fun hown => ?_⟩
  have := (hother.unique (hdrops ▸ hown)).2.2
  exact absurd this (by decide)

end Index

end QueryTuning
