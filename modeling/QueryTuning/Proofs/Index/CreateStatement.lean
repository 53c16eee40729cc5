import QueryTuning.Index.Recommendation
import QueryTuning.Plan.Reading
import QueryTuning.Proofs.Statement.Tokens

/-!
# The statement of a recommended index

A plan names tables and columns in brackets. The statement has its table in brackets
again, but its columns as the plan spells them between their brackets. So it says what
the plan said exactly if every column has a name that needs no brackets.
-/

set_option autoImplicit false

namespace QueryTuning.Index

open Markup Plan Statement Text

def Holds (e : Element) (key : String) (name : List Char) : Prop :=
  name ≠ [] ∧ e.attribute? key = some (String.ofList (quoted name))

def columnElements (usage : Usage) (missing : Element) : List Element :=
  (missing.children.filter fun e => e.localName == "ColumnGroup" && usage? e == some usage).flatMap
    fun group => group.children.filter fun e => e.localName == "Column"

structure Describes (missing : Element) (database schema table : List Char)
    (equality inequality included : List (List Char)) : Prop where
  database : Holds missing "Database" database
  schema : Holds missing "Schema" schema
  table : Holds missing "Table" table
  equality : List.Forall₂ (Holds · "Name") (columnElements .equality missing) equality
  inequality : List.Forall₂ (Holds · "Name") (columnElements .inequality missing) inequality
  included : List.Forall₂ (Holds · "Name") (columnElements .included missing) included

theorem unbracketed_quoted (name : List Char) : unbracketed (quoted name) = doubled name := by
  have hopen : isBlank '[' = false := by decide
  have hclose : isBlank ']' = false := by decide
  have htrim : trim (quoted name) = quoted name := by
    simp [trim, trimStart, trimEnd, quoted, hopen, hclose]
  have hlast : (quoted name).getLast? = some ']' := by
    rw [quoted, ← List.cons_append, List.getLast?_concat]
  rw [unbracketed, htrim, if_pos ⟨rfl, hlast⟩]
  simp [quoted]

theorem Holds.attributeName {e : Element} {key : String} {name : List Char} (h : Holds e key name) :
    attributeName e key = String.ofList (doubled name) := by
  rw [Plan.attributeName, h.2]
  simp [unbracketed_quoted]

theorem columnsFor_eq {usage : Usage} {missing : Element} {names : List (List Char)}
    (h : List.Forall₂ (Holds · "Name") (columnElements usage missing) names) :
    columnsFor usage missing = names.map fun name => String.ofList (doubled name) := by
  have hall : columnsFor usage missing = ((columnElements usage missing).map fun e =>
      attributeName e "Name").filter (· ≠ "") := by
    rw [columnsFor, columnElements, List.map_flatMap, List.filter_flatMap]
    rfl
  rw [hall]
  clear hall
  generalize columnElements usage missing = elements at h
  induction h with
  | nil => rfl
  | @cons e name _ _ he _ ih =>
    have hname : attributeName e "Name" ≠ "" := by
      rw [he.attributeName]
      intro hempty
      have := congrArg String.toList hempty
      simp [doubled_ne_nil he.1] at this
    rw [List.map_cons, List.filter_cons_of_pos (by simpa using hname), ih, he.attributeName,
      List.map_cons]

def indexNameText (table : List Char) (keys : List (List Char)) : List Char :=
  "IX_".toList ++ doubled table ++ '_' :: ['_'].intercalate (keys.map fun c => (doubled c).take 3)

def placeText (database schema table : List Char) : List Char :=
  " ON ".toList ++ (quoted database ++ '.' :: (quoted schema ++ '.' ::
    (quoted table ++ " (".toList)))

def includedText (included : List (List Char)) : List Char :=
  if included = [] then []
  else " INCLUDE (".toList ++ ([',', ' '].intercalate included ++ [')'])

def columnsText (keys included : List (List Char)) : List Char :=
  [',', ' '].intercalate (keys.map (· ++ " ASC".toList)) ++ ')' :: includedText included

variable {missing : Element} {database schema table : List Char}
  {equality inequality included keys : List (List Char)}

theorem createStatement_text
    (h : Describes missing database schema table equality inequality included)
    (hkeys : equality ++ inequality ≠ []) (impact : Option Binary64) :
    (recommend (advisory impact missing)).createStatement.toList =
      "CREATE NONCLUSTERED INDEX [".toList ++ (indexNameText table (equality ++ inequality) ++
        ']' :: (placeText database schema table ++
          columnsText ((equality ++ inequality).map doubled) (included.map doubled))) := by
  have hadvisory : advisory impact missing =
      { database := String.ofList (doubled database)
        schema := String.ofList (doubled schema)
        table := String.ofList (doubled table)
        equalityColumns := equality.map fun name => String.ofList (doubled name)
        inequalityColumns := inequality.map fun name => String.ofList (doubled name)
        includeColumns := included.map fun name => String.ofList (doubled name)
        impact := (attributeReal? missing "Impact").or impact } := by
    rw [advisory, h.database.attributeName, h.schema.attributeName, h.table.attributeName,
      columnsFor_eq h.equality, columnsFor_eq h.inequality, columnsFor_eq h.included]
  have hblank : (trimmed "").isEmpty = true := by decide
  rw [hadvisory]
  simp only [recommend, Recommendation.render, ← List.map_append, List.map_map]
  rw [if_neg (by simpa using hkeys), hblank]
  have hincluded : (if included = [] then ""
      else " INCLUDE (" ++ ", ".intercalate
        (included.map fun name => String.ofList (doubled name)) ++ ")").toList =
      includedText (included.map doubled) := by
    by_cases hnone : included = [] <;> simp [hnone, includedText, Function.comp_def]
  simp [hincluded, Recommendation.indexName, Recommendation.tablePath, Recommendation.shortName,
    SortDirection.word, Function.comp_def, indexNameText, placeText, quoted, columnsText]

theorem doubled_columnsText (keys included : List (List Char)) :
    doubled (columnsText keys included) =
      columnsText (keys.map doubled) (included.map doubled) := by
  have hkeys : doubled ([',', ' '].intercalate (keys.map (· ++ " ASC".toList))) =
      [',', ' '].intercalate ((keys.map doubled).map (· ++ " ASC".toList)) := by
    simp [doubled_intercalate, doubled_append, doubled_plain, Function.comp_def]
  have hincluded : doubled (includedText included) = includedText (included.map doubled) := by
    by_cases hnone : included = []
    · simp [includedText, hnone, doubled]
    · simp [includedText, hnone, doubled_append, doubled_intercalate, doubled]
  have hclose : doubled (')' :: includedText included) =
      ')' :: doubled (includedText included) := rfl
  rw [columnsText, doubled_append, hkeys, hclose, hincluded, columnsText]

def includedParts (included : List (List Char)) : List Part :=
  if included = [] then []
  else .keyword "INCLUDE".toList :: .mark '(' ::
    ([.mark ','].intercalate (included.map fun c => [.name c]) ++ [.mark ')'])

def columnsParts (keys included : List (List Char)) : List Part :=
  [.mark ','].intercalate (keys.map fun c => [.name c, .keyword "ASC".toList]) ++
    .mark ')' :: includedParts included

def statementParts (database schema table : List Char) (keys included : List (List Char)) :
    List Part :=
  .keyword "CREATE".toList :: .keyword "NONCLUSTERED".toList :: .keyword "INDEX".toList ::
    .anyName :: .keyword "ON".toList :: .name database :: .mark '.' :: .name schema ::
    .mark '.' :: .name table :: .mark '(' :: columnsParts keys included

variable {A : Alphabet} {rest : List Char} {parts : List Part}

theorem readsAs_heading (cs : List Char) :
    ReadsAs A ("CREATE NONCLUSTERED INDEX [".toList ++ cs)
        (.keyword "CREATE".toList :: .keyword "NONCLUSTERED".toList :: .keyword "INDEX".toList ::
          .anyName :: parts) ↔
      ∃ name rest, closeQuote cs = some (name, rest) ∧ ReadsAs A rest parts := by
  have htext : "CREATE NONCLUSTERED INDEX [".toList ++ cs =
      "CREATE".toList ++ ' ' :: ("NONCLUSTERED".toList ++ ' ' :: ("INDEX".toList ++ ' ' ::
        '[' :: cs)) := rfl
  rw [htext, readsAs_letters (by decide) (by decide), readsAs_letters (by decide) (by decide),
    readsAs_letters (by decide) (by decide), readsAs_anyName]

theorem readsAs_place :
    ReadsAs A (placeText database schema table ++ rest)
        (.keyword "ON".toList :: .name database :: .mark '.' :: .name schema :: .mark '.' ::
          .name table :: .mark '(' :: parts) ↔
      ReadsAs A rest parts := by
  have htext : placeText database schema table ++ rest =
      ' ' :: ("ON".toList ++ ' ' :: (quoted database ++ '.' :: (quoted schema ++
        '.' :: (quoted table ++ ' ' :: '(' :: rest)))) := by
    simp [placeText]
  rw [htext, readsAs_blank (by decide), readsAs_letters (by decide) (by decide),
    readsAs_quoted (by simp), readsAs_punctuation (by simp), readsAs_quoted (by simp),
    readsAs_punctuation (by simp), readsAs_quoted (by simp), readsAs_blank (by decide),
    readsAs_punctuation (by simp)]

theorem columns_read_back (h : ∀ c ∈ keys ++ included, A.Regular c) :
    ReadsAs A (columnsText keys included) (columnsParts keys included) := by
  have hkey : ∀ c ∈ keys, ∀ rest parts, StartsOutside A.inName rest →
      (ReadsAs A ((c ++ " ASC".toList) ++ rest) ([.name c, .keyword "ASC".toList] ++ parts) ↔
        ReadsAs A rest parts) := by
    intro c hc rest parts hrest
    have htext : (c ++ " ASC".toList) ++ rest = c ++ ' ' :: ("ASC".toList ++ rest) := by simp
    rw [htext, List.cons_append,
      readsAs_word (h c (by simp [hc])) (outside_punctuation (by simp) _),
      readsAs_blank (by decide), List.cons_append, List.nil_append,
      readsAs_keyword (A.regular_of_letters (by decide) (by decide)) hrest]
  have hname : ∀ c ∈ included, ∀ rest parts, StartsOutside A.inName rest →
      (ReadsAs A (c ++ rest) ([.name c] ++ parts) ↔ ReadsAs A rest parts) :=
    fun c hc rest parts hrest => readsAs_word (h c (by simp [hc])) hrest
  rw [columnsText, columnsParts, readsAs_list hkey, includedText, includedParts]
  split
  · exact readsAs_nil
  · have htext : " INCLUDE (".toList ++ ([',', ' '].intercalate included ++ [')']) =
        ' ' :: ("INCLUDE".toList ++ ' ' :: '(' ::
          ([',', ' '].intercalate (included.map fun c => c) ++ [')'])) := by simp
    rw [htext, readsAs_blank (by decide), readsAs_letters (by decide) (by decide),
      readsAs_punctuation (by simp)]
    exact (readsAs_list hname).mpr readsAs_nil

theorem mem_columnsParts {c : List Char} (hc : c ∈ keys ++ included) :
    .name c ∈ columnsParts keys included := by
  rw [columnsParts]
  rcases List.mem_append.mp hc with hc | hc
  · exact List.mem_append_left _ (mem_intercalate (List.mem_cons_self ..)
      (List.mem_map_of_mem hc))
  · rw [includedParts, if_neg (List.ne_nil_of_mem hc)]
    have : Part.name c ∈ [Part.mark ','].intercalate (included.map fun c => [.name c]) :=
      mem_intercalate (List.mem_singleton_self _) (List.mem_map_of_mem hc)
    simp [this]

theorem indexName_closes (table : List Char) {t : List Char} (hkeys : ∀ c ∈ keys, ']' ∉ c)
    (ht : t.head? ≠ some ']') :
    ∃ name, closeQuote (indexNameText table keys ++ ']' :: t) = some (name, t) := by
  have hcut : keys.map (fun c => (doubled c).take 3) = (keys.map (List.take 3)).map doubled := by
    rw [List.map_map]
    refine List.map_congr_left fun c hc => ?_
    have hshort : ']' ∉ c.take 3 := fun h => hkeys c hc (List.mem_of_mem_take h)
    rw [Function.comp_apply, doubled_plain (hkeys c hc), doubled_plain hshort]
  have htext : indexNameText table keys =
      doubled ("IX_".toList ++ table ++ '_' :: ['_'].intercalate (keys.map (List.take 3))) := by
    rw [indexNameText, hcut, ← doubled_intercalate (by decide)]
    simp [doubled_append, doubled]
  exact ⟨_, htext ▸ closeQuote_quoted _ ht⟩

theorem not_readsAs_underscore {word : List Char} (hword : word.head? ≠ some '_')
    (hrest : rest.head? = some '_') : ¬ReadsAs A rest (.keyword word :: parts) := by
  obtain ⟨cs, rfl⟩ := List.head?_eq_some_iff.mp hrest
  have hname : A.startsName '_' = true := by
    rw [A.startsName_ascii (by decide)]
    decide
  rw [readsAs_cons (tokens_startsName A hname cs)]
  rintro ⟨hfits, _⟩
  rw [Part.Fits, Token.word.injEq] at hfits
  simp [← hfits] at hword

theorem not_readsAs_dot {word : List Char} : ¬ReadsAs A ('.' :: rest) (.keyword word :: parts) := by
  have hname : A.startsName '.' = false := by
    rw [A.startsName_ascii (by decide)]
    decide
  rw [readsAs_cons (tokens_mark A (by decide) hname rest)]
  rintro ⟨hfits, _⟩
  cases hfits

/-- Whatever ON comes after the name of the index is the one in front of the table. -/
theorem place_of_indexName {cs : List Char} {name : List Char} {word : List Char}
    (hword : word.head? ≠ some '_')
    (hclose : closeQuote (indexNameText table keys ++
      ']' :: (placeText database schema table ++ cs)) = some (name, rest))
    (h : ReadsAs A rest (.keyword word :: parts)) :
    rest = placeText database schema table ++ cs := by
  have htext : indexNameText table keys = doubled ("IX_".toList ++ table ++ ['_']) ++
      ['_'].intercalate (keys.map fun c => (doubled c).take 3) := by
    simp [indexNameText, doubled_append, doubled]
  rw [htext, List.append_assoc, closeQuote_doubled] at hclose
  obtain ⟨⟨m, _⟩, hjoined, heq⟩ := Option.map_eq_some_iff.mp hclose
  cases heq
  have hcut : ∀ p ∈ keys.map (fun c => (doubled c).take 3),
      ∃ s, p = doubled s ∨ p = doubled s ++ [']'] := by
    intro p hp
    obtain ⟨c, _, rfl⟩ := List.mem_map.mp hp
    exact take_doubled 3 c
  -- After a name that ends early comes the mark between two columns, and after one that ends
  -- late, in the bracket of the database, comes a dot.
  rcases closeQuote_joined hcut (by simp [placeText]) hjoined with hrest | hrest | ⟨s, hrest⟩
  · exact hrest
  · exact absurd h (not_readsAs_underscore hword hrest)
  · have hplace : placeText database schema table ++ cs =
        doubled (" ON [".toList ++ database) ++ ']' :: '.' :: (quoted schema ++ '.' ::
          (quoted table ++ " (".toList ++ cs)) := by
      simp [placeText, quoted, doubled]
    rw [hplace, closeQuote_quoted _ (by simp)] at hrest
    cases hrest
    exact absurd h not_readsAs_dot

theorem statement_reads_back :
    ReadsAs A ("CREATE NONCLUSTERED INDEX [".toList ++ (indexNameText table keys ++
        ']' :: (placeText database schema table ++
          columnsText (keys.map doubled) (included.map doubled))))
      (statementParts database schema table keys included) ↔
      ∀ c ∈ keys ++ included, A.Regular c := by
  rw [statementParts, readsAs_heading]
  constructor
  · rintro ⟨name, rest, hclose, hrest⟩ c hc
    rw [place_of_indexName (by decide) hclose hrest, readsAs_place, ← doubled_columnsText] at hrest
    exact regular_of_readsAs_doubled hrest (mem_columnsParts hc)
  · intro h
    have hplain : ∀ names : List (List Char), (∀ c ∈ names, A.Regular c) →
        names.map doubled = names := by
      intro names hnames
      exact (List.map_congr_left fun c hc => doubled_plain (hnames c hc).no_bracket).trans
        (List.map_id names)
    have hkeys : ∀ c ∈ keys, A.Regular c := fun c hc => h c (by simp [hc])
    obtain ⟨name, hname⟩ := indexName_closes table (t := placeText database schema table ++
      columnsText (keys.map doubled) (included.map doubled))
      (fun c hc => (hkeys c hc).no_bracket) (by simp [placeText])
    refine ⟨name, _, hname, ?_⟩
    rw [readsAs_place, hplain keys hkeys, hplain included fun c hc => h c (by simp [hc])]
    exact columns_read_back h

theorem mem_recommendations {root group missing : Element} (hgroup : group ∈ root.preorder)
    (hgroupName : isMissingIndexGroup group = true) (hmissing : missing ∈ group.children)
    (hmissingName : isMissingIndex missing = true) (mode : Mode) (document : String) :
    recommend (advisory (attributeReal? group "Impact") missing) ∈
      recommendations (ofElement mode document root) := by
  have hgrouped : advisory (attributeReal? group "Impact") missing ∈ groupedAdvisories root :=
    List.mem_flatMap.mpr ⟨group, List.mem_filter.mpr ⟨hgroup, hgroupName⟩,
      List.mem_map_of_mem (List.mem_filter.mpr ⟨hmissing, hmissingName⟩)⟩
  refine List.mem_map_of_mem ?_
  rw [ofElement, advisories]
  split
  next hnone => simp [hnone] at hgrouped
  · exact hgrouped

/-- The statement says what the plan says exactly if no column needs brackets. -/
theorem createStatement_says_plan (A : Alphabet) {root group missing : Element}
    (hgroup : group ∈ root.preorder) (hgroupName : isMissingIndexGroup group = true)
    (hmissing : missing ∈ group.children) (hmissingName : isMissingIndex missing = true)
    {database schema table : List Char} {equality inequality included : List (List Char)}
    (h : Describes missing database schema table equality inequality included)
    (hkeys : equality ++ inequality ≠ []) (mode : Mode) (document : String) :
    let r := recommend (advisory (attributeReal? group "Impact") missing)
    r ∈ recommendations (ofElement mode document root) ∧
      (ReadsAs A r.createStatement.toList
          (statementParts database schema table (equality ++ inequality) included) ↔
        ∀ c ∈ equality ++ inequality ++ included, A.Regular c) := by
  refine ⟨mem_recommendations hgroup hgroupName hmissing hmissingName mode document, ?_⟩
  rw [createStatement_text h hkeys]
  exact statement_reads_back

def element (name : String) (attributes : List (String × String)) (children : List Element) :
    Element :=
  .node ⟨none, name⟩ (attributes.map fun p => ⟨⟨none, p.1⟩, p.2⟩) children

def columnGroup (usage : Usage) (names : List (List Char)) : Element :=
  let word := match usage with
    | .equality => "EQUALITY"
    | .inequality => "INEQUALITY"
    | .included => "INCLUDE"
  element "ColumnGroup" [("Usage", word)]
    (names.map fun name => element "Column" [("Name", String.ofList (quoted name))] [])

def missingIndex (database schema table : List Char)
    (equality inequality included : List (List Char)) : Element :=
  element "MissingIndex"
    [("Database", String.ofList (quoted database)), ("Schema", String.ofList (quoted schema)),
      ("Table", String.ofList (quoted table))]
    [columnGroup .equality equality, columnGroup .inequality inequality,
      columnGroup .included included]

def missingIndexGroup (missing : Element) : Element := element "MissingIndexGroup" [] [missing]

def planTree (missing : Element) : Element := element "ShowPlanXML" [] [missingIndexGroup missing]

theorem mem_planTree (missing : Element) :
    missingIndexGroup missing ∈ (planTree missing).preorder := by
  simp [planTree, missingIndexGroup, element, Element.preorder, Element.preorderAll]

theorem usage_columnGroup (usage : Usage) (names : List (List Char)) :
    usage? (columnGroup usage names) = some usage := by
  have hread : usage? (columnGroup usage names) = usage? (columnGroup usage []) := rfl
  rw [hread]
  cases usage <;> decide

theorem columnGroup_holds (usage : Usage) {names : List (List Char)}
    (h : ∀ name ∈ names, name ≠ []) :
    List.Forall₂ (Holds · "Name")
      ((columnGroup usage names).children.filter fun e => e.localName == "Column") names := by
  induction names with
  | nil => exact .nil
  | cons name names ih =>
    exact .cons ⟨h name (by simp), rfl⟩ (ih fun n hn => h n (by simp [hn]))

theorem describes_missingIndex (hdatabase : database ≠ []) (hschema : schema ≠ [])
    (htable : table ≠ []) (hnames : ∀ c ∈ equality ++ inequality ++ included, c ≠ []) :
    Describes (missingIndex database schema table equality inequality included) database schema
      table equality inequality included := by
  have hgroup : ∀ usage names, (columnGroup usage names).localName = "ColumnGroup" :=
    fun _ _ => rfl
  have hchildren : (missingIndex database schema table equality inequality included).children =
    [columnGroup .equality equality, columnGroup .inequality inequality,
      columnGroup .included included] := rfl
  have hheld : ∀ usage names, names ⊆ equality ++ inequality ++ included →
      List.Forall₂ (Holds · "Name")
        ((columnGroup usage names).children.filter fun e => e.localName == "Column") names :=
    fun usage names hsub => columnGroup_holds usage fun c hc => hnames c (hsub hc)
  constructor
  · exact ⟨hdatabase, rfl⟩
  · exact ⟨hschema, rfl⟩
  · exact ⟨htable, rfl⟩
  · simpa [columnElements, hchildren, hgroup, usage_columnGroup, List.filter_cons] using
      hheld .equality equality (by simp)
  · simpa [columnElements, hchildren, hgroup, usage_columnGroup, List.filter_cons] using
      hheld .inequality inequality (by simp)
  · simpa [columnElements, hchildren, hgroup, usage_columnGroup, List.filter_cons] using
      hheld .included included (by simp)

/-- A table with a bracket in its name, and columns that need none. -/
theorem regular_columns_read_back :
    let missing := missingIndex "Sales".toList "dbo".toList "Or]ders".toList ["Region".toList]
      ["Order_Date".toList, "#1".toList] ["Total".toList]
    let r := recommend (advisory none missing)
    r ∈ recommendations (ofElement .estimated "" (planTree missing)) ∧
      ReadsAs .ascii r.createStatement.toList
        (statementParts "Sales".toList "dbo".toList "Or]ders".toList
          ["Region".toList, "Order_Date".toList, "#1".toList] ["Total".toList]) := by
  intro missing r
  have hdescribes : Describes missing "Sales".toList "dbo".toList "Or]ders".toList
      ["Region".toList] ["Order_Date".toList, "#1".toList] ["Total".toList] :=
    describes_missingIndex (by decide) (by decide) (by decide) (by decide)
  have hstated := createStatement_says_plan .ascii (mem_planTree missing) rfl
    (List.mem_singleton_self missing) rfl hdescribes (by simp) .estimated ""
  exact ⟨hstated.1, hstated.2.mpr (by decide)⟩

/-- A column with a blank in its name is read as two words. -/
theorem order_date_is_split :
    let missing := missingIndex "Sales".toList "dbo".toList "Orders".toList
      ["Order Date".toList] [] []
    let r := recommend (advisory none missing)
    r ∈ recommendations (ofElement .estimated "" (planTree missing)) ∧
      Describes missing "Sales".toList "dbo".toList "Orders".toList ["Order Date".toList] [] [] ∧
      ¬ReadsAs .ascii r.createStatement.toList
        (statementParts "Sales".toList "dbo".toList "Orders".toList ["Order Date".toList] []) := by
  intro missing r
  have hdescribes : Describes missing "Sales".toList "dbo".toList "Orders".toList
      ["Order Date".toList] [] [] :=
    describes_missingIndex (by decide) (by decide) (by decide) (by decide)
  refine ⟨mem_recommendations (mem_planTree missing) rfl (List.mem_singleton_self missing) rfl
    .estimated "", hdescribes, ?_⟩
  have hkeys : ["Order Date".toList] ++ [] ≠ ([] : List (List Char)) := by simp
  have htext := createStatement_text hdescribes hkeys none
  rw [htext]
  intro hread
  have hregular := statement_reads_back.mp hread
  exact absurd hregular (by decide)

end QueryTuning.Index
