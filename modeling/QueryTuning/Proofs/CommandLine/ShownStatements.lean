import QueryTuning.CommandLine.Program
import QueryTuning.Proofs.CommandLine.Marks
import QueryTuning.Proofs.Index.DropStatement
import QueryTuning.Proofs.Index.Recommendations

/-!
# Statements as they are shown

A statement that creates or drops an index is full of names in brackets, and the line that shows
it is read for marks. So it is shown as it is exactly if none of its names looks like a mark,
which a name does that begins with a small letter.
-/

set_option autoImplicit false

namespace QueryTuning.CommandLine

open Index Text

variable {escaped : Bool} {c : Char}

theorem plain_toString (n : Nat) : ∀ c ∈ (toString n).toList, isPlain c = true := by
  intro c hc
  have hdigits : (toString n).toList = Nat.toDigits 10 n := String.toList_ofList
  rw [hdigits] at hc
  exact isPlain_of_class (by decide) (by decide)
    (Nat.isDigit_of_mem_toDigits (by decide) (by decide) hc)

theorem plain_padded (k n : Nat) :
    ∀ c ∈ (Binary64.zeros k).toList ++ (toString n).toList, isPlain c = true := by
  intro c hc
  rcases List.mem_append.mp hc with hc | hc
  · rw [Binary64.zeros, String.toList_ofList] at hc
    rw [List.eq_of_mem_replicate hc]
    decide
  · exact plain_toString n c hc

theorem plain_fixedDigits (places : Nat) (x : Rat) :
    ∀ c ∈ (Binary64.fixedDigits places x).toList, isPlain c = true := by
  have hpoint : ∀ c ∈ ".".toList, isPlain c = true := by decide
  unfold Binary64.fixedDigits
  intro c hc
  split at hc
  · exact plain_toString _ c hc
  · simp only [String.toList_append, String.toList_ofList, List.mem_append] at hc
    rcases hc with (hc | hc) | hc
    · exact plain_padded _ _ c (List.mem_of_mem_take hc)
    · exact hpoint c hc
    · exact plain_padded _ _ c (List.mem_of_mem_drop hc)

theorem plain_fixed (places : Nat) (x : Binary64) :
    ∀ c ∈ (x.fixed places).toList, isPlain c = true := by
  have hsign : ∀ c ∈ "-".toList, isPlain c = true := by decide
  unfold Binary64.fixed
  intro c hc
  split at hc
  next hnone =>
    cases x with
    | nan => exact (by decide : ∀ c ∈ "nan".toList, isPlain c = true) c hc
    | infinite negative =>
      cases negative with
      | false => exact (by decide : ∀ c ∈ "inf".toList, isPlain c = true) c hc
      | true => exact (by decide : ∀ c ∈ "-inf".toList, isPlain c = true) c hc
    | negativeZero => cases hnone
    | finite value => cases hnone
  next value _ =>
    rw [String.toList_append, List.mem_append] at hc
    rcases hc with hc | hc
    · split at hc
      · exact hsign c hc
      · cases hc
    · exact plain_fixedDigits _ _ c hc

theorem IsMark.closing {style : List Char} (h : IsMark style) : IsMark ('/' :: style) :=
  ⟨⟨'/', rfl, by decide⟩, List.forall_mem_cons.mpr ⟨by decide, h.plain⟩⟩

/-- The marks around a text in a style are not shown. -/
theorem withoutMarks_styled {style text : String} {rest : List Char} (hstyle : IsMark style.toList)
    (hlast : text.toList.getLast? ≠ some '\\') :
    withoutMarks false false ((styled style text).toList ++ rest) =
      withoutMarks false false text.toList ++ withoutMarks false false rest := by
  have hcut : (styled style text).toList ++ rest =
      '[' :: (style.toList ++ ']' :: (text.toList ++
        '[' :: (('/' :: style.toList) ++ ']' :: rest))) := by
    simp [styled]
  rw [hcut, withoutMarks_mark hstyle, withoutMarks_append, escapedAfter_of_last hlast,
    withoutMarks_mark hstyle.closing]

theorem isMark_dim : IsMark "dim".toList := ⟨⟨'d', rfl, by decide⟩, by decide⟩

theorem isMark_green : IsMark "green".toList := ⟨⟨'g', rfl, by decide⟩, by decide⟩

theorem displayed_dropLine {r : Redundant} (h : r.dropStatement.toList.getLast? ≠ some '\\') :
    displayed (dropLine r) = "  " ++ displayed r.dropStatement := by
  have hline : (dropLine r).toList =
      "  ".toList ++ ((styled "dim" r.dropStatement).toList ++ []) := by simp [dropLine]
  rw [displayed, hline, withoutMarks_plain (by decide), withoutMarks_styled isMark_dim h, displayed,
    ← String.toList_inj]
  simp [withoutMarks]

theorem displayed_recommendationLine {r : Recommendation}
    (h : r.createStatement.toList.getLast? ≠ some '\\') :
    displayed (recommendationLine r) =
      "  " ++ displayed r.createStatement ++ "  (" ++ r.estimatedImpact.fixed 1 ++ "%)" := by
  set impact := "(" ++ r.estimatedImpact.fixed 1 ++ "%)" with himpact
  have hplain : ∀ c ∈ impact.toList, isPlain c = true := by
    rw [himpact, String.toList_append, String.toList_append]
    simp only [List.forall_mem_append]
    exact ⟨⟨by decide, plain_fixed 1 _⟩, by decide⟩
  have hlast : impact.toList.getLast? ≠ some '\\' := by
    have hend : "%)".toList.getLast? = some ')' := by decide
    rw [himpact, String.toList_append, List.getLast?_append, hend, Option.some_or]
    decide
  have hline : (recommendationLine r).toList = "  ".toList ++
      ((styled "green" r.createStatement).toList ++ ("  ".toList ++
        ((styled "dim" impact).toList ++ []))) := by
    simp [recommendationLine, himpact]
  rw [displayed, hline, withoutMarks_plain (by decide), withoutMarks_styled isMark_green h,
    withoutMarks_plain (by decide), withoutMarks_styled isMark_dim hlast,
    withoutMarks_eq_self_iff.mpr (not_holdsMarkFrom_of_plain hplain), displayed,
    ← String.toList_inj]
  simp [withoutMarks, himpact]

def IsPlainName (name : String) : Prop := ∀ c ∈ name.toList, isPlain c = true

def LooksLikeMark (name : String) : Prop := name.toList.head?.any opensMark = true

instance : DecidablePred IsPlainName := fun name =>
  inferInstanceAs (Decidable (∀ c ∈ name.toList, isPlain c = true))

instance : DecidablePred LooksLikeMark := fun name =>
  inferInstanceAs (Decidable (name.toList.head?.any opensMark = true))

theorem isPlainName_append {s t : String} :
    IsPlainName (s ++ t) ↔ IsPlainName s ∧ IsPlainName t := by
  simp only [IsPlainName, String.toList_append, List.forall_mem_append]

theorem isPlainName_intercalate {sep : String} {names : List String} (hsep : IsPlainName sep)
    (h : ∀ name ∈ names, IsPlainName name) : IsPlainName (sep.intercalate names) := by
  induction names with
  | nil => simp [IsPlainName]
  | cons name names ih =>
    have hname := h name (by simp)
    have hnames := ih fun n hn => h n (by simp [hn])
    cases names with
    | nil => simpa [IsPlainName] using hname
    | cons next names =>
      have hcut : sep.intercalate (name :: next :: names) =
          name ++ (sep ++ sep.intercalate (next :: names)) := by
        rw [← String.toList_inj]
        simp
      rw [hcut, isPlainName_append, isPlainName_append]
      exact ⟨hname, hsep, hnames⟩

def withNames : List (String × String) → List Char → List Char
  | [], rest => rest
  | (text, name) :: parts, rest =>
    text.toList ++ '[' :: (name.toList ++ ']' :: withNames parts rest)

structure IsBetweenNames (text : String) : Prop where
  plain : IsPlainName text
  last : text.toList.getLast? ≠ some '\\'

instance : DecidablePred IsBetweenNames := fun text =>
  decidable_of_iff (IsPlainName text ∧ text.toList.getLast? ≠ some '\\')
    ⟨fun h => ⟨h.1, h.2⟩, fun h => ⟨h.plain, h.last⟩⟩

theorem holdsMarkFrom_withNames {parts : List (String × String)} {rest : List Char}
    (htexts : ∀ part ∈ parts, IsBetweenNames part.1)
    (hnames : ∀ part ∈ parts, IsPlainName part.2) :
    HoldsMarkFrom false (withNames parts rest) ↔
      (∃ part ∈ parts, LooksLikeMark part.2) ∨ HoldsMarkFrom false rest := by
  induction parts with
  | nil => simp [withNames]
  | cons part parts ih =>
    obtain ⟨text, name⟩ := part
    obtain ⟨htext, htexts⟩ := List.forall_mem_cons.mp htexts
    obtain ⟨hname, hnames⟩ := List.forall_mem_cons.mp hnames
    rw [withNames, holdsMarkFrom_plain htext.plain, escapedAfter_of_last htext.last,
      holdsMarkFrom_bracketed hname, ih htexts hnames, List.exists_mem_cons_iff, or_assoc]
    rfl

theorem last_of_withNames (parts : List (String × String)) {rest : List Char}
    (h : rest.getLast? ≠ some '\\') : (withNames parts rest).getLast? ≠ some '\\' := by
  induction parts with
  | nil => exact h
  | cons part parts ih =>
    rw [withNames, List.getLast?_append, List.getLast?_cons, List.getLast?_append,
      List.getLast?_cons]
    cases hlast : (withNames parts rest).getLast? with
    | none => simp
    | some c => simpa [hlast] using ih

def columnList (r : Recommendation) : String :=
  " (" ++ ", ".intercalate (r.keyColumns.map fun column =>
    column.name ++ " " ++ column.direction.word) ++ ")" ++
    if r.includedColumns.isEmpty then ""
    else " INCLUDE (" ++ ", ".intercalate r.includedColumns ++ ")"

theorem getLast?_columnList (r : Recommendation) :
    (columnList r).toList.getLast? = some ')' := by
  have hclose : ")".toList.getLast? = some ')' := by decide
  unfold columnList
  split <;> simp only [String.toList_append, List.getLast?_append, hclose, Option.some_or]
  rfl

/-- The statement that creates an index, cut at the brackets around its names. -/
theorem render_cut {r : Recommendation} (hkeys : r.keyColumns ≠ []) (hunique : r.isUnique = false)
    (hkind : r.kind = .nonclustered) (hfilter : r.filterPredicate = "") :
    r.render.toList = withNames [("CREATE NONCLUSTERED INDEX ", r.indexName), (" ON ", r.database),
      (".", r.schema), (".", r.table)] (columnList r).toList := by
  have hblank : (trimmed "").isEmpty = true := by decide
  have hsome : r.keyColumns.isEmpty = false := by simpa using hkeys
  rw [Recommendation.render, hsome, hunique, hkind, hfilter, hblank, columnList,
    Recommendation.tablePath]
  generalize (if r.includedColumns.isEmpty then ""
    else " INCLUDE (" ++ ", ".intercalate r.includedColumns ++ ")") = included
  generalize ", ".intercalate (r.keyColumns.map _) = columns
  generalize r.indexName = name
  simp [withNames]

theorem last_of_recommend (a : Plan.Advisory) :
    (recommend a).createStatement.toList.getLast? ≠ some '\\' := by
  by_cases hkeys : (recommend a).keyColumns = []
  · rw [(createStatement_eq_empty_iff a).mpr hkeys]
    decide
  · have hstatement : (recommend a).createStatement = (recommend a).render := rfl
    rw [hstatement, render_cut hkeys rfl rfl rfl]
    exact last_of_withNames _ (by rw [getLast?_columnList]; decide)

theorem dropStatement_cut (schema table name : Cell) :
    (dropStatement schema table name).toList = withNames [("DROP INDEX ", name.display),
      (" ON ", schema.display), (".", table.display)] [] := by
  delta dropStatement
  generalize name.display = n, schema.display = s, table.display = t
  simp [withNames]

theorem last_of_dropStatement (schema table name : Cell) :
    (dropStatement schema table name).toList.getLast? ≠ some '\\' := by
  rw [dropStatement_cut]
  exact last_of_withNames _ (by decide)

/-- A statement that drops an index holds a mark exactly if one of its names looks like one. -/
theorem holdsMark_dropStatement {schema table name : Cell}
    (h : ∀ cell ∈ [name, schema, table], IsPlainName cell.display) :
    HoldsMark (dropStatement schema table name).toList ↔
      ∃ cell ∈ [name, schema, table], LooksLikeMark cell.display := by
  have hnone : ¬ HoldsMarkFrom false [] := not_holdsMarkFrom_of_plain (by simp)
  rw [holdsMark_iff, dropStatement_cut, holdsMarkFrom_withNames ?_ (by simpa using h),
    or_iff_left hnone]
  · simp
  · simp only [List.forall_mem_cons]
    decide

theorem isPlainName_columnList {r : Recommendation}
    (hkeys : ∀ column ∈ r.keyColumns, IsPlainName column.name)
    (hincluded : ∀ name ∈ r.includedColumns, IsPlainName name) :
    IsPlainName (columnList r) := by
  have hcolumns : IsPlainName (", ".intercalate (r.keyColumns.map fun column =>
      column.name ++ " " ++ column.direction.word)) := by
    refine isPlainName_intercalate (by decide) fun name hname => ?_
    obtain ⟨column, hcolumn, rfl⟩ := List.mem_map.mp hname
    have hword : IsPlainName column.direction.word := by
      cases column.direction <;> decide
    rw [isPlainName_append, isPlainName_append]
    exact ⟨⟨hkeys column hcolumn, by decide⟩, hword⟩
  have hlist : IsPlainName (", ".intercalate r.includedColumns) :=
    isPlainName_intercalate (by decide) hincluded
  unfold columnList
  split <;> simp only [isPlainName_append, hcolumns, hlist] <;> decide

theorem isPlainName_indexName {r : Recommendation} (htable : IsPlainName r.table)
    (hkeys : ∀ column ∈ r.keyColumns, IsPlainName column.name) : IsPlainName r.indexName := by
  have hcolumns : IsPlainName ("_".intercalate (r.keyColumns.map fun column =>
      Recommendation.shortName column.name)) := by
    refine isPlainName_intercalate (by decide) fun name hname => ?_
    obtain ⟨column, hcolumn, rfl⟩ := List.mem_map.mp hname
    intro c hc
    rw [Recommendation.shortName, String.toList_ofList] at hc
    exact hkeys column hcolumn c (List.mem_of_mem_take hc)
  unfold Recommendation.indexName
  split <;> simp only [isPlainName_append, htable, hcolumns] <;> decide

/-- The name of a new index begins with a capital letter. -/
theorem not_looksLikeMark_indexName (r : Recommendation) : ¬ LooksLikeMark r.indexName := by
  have hfirst : ∀ (word : String) (rest : List Char), word = "CIX" ∨ word = "IX" →
      ¬ (word.toList ++ rest).head?.any opensMark = true := by
    rintro _ rest (rfl | rfl) <;> exact Bool.false_ne_true
  unfold LooksLikeMark Recommendation.indexName
  simp only [String.toList_append, List.append_assoc]
  refine hfirst _ _ ?_
  split
  · exact .inl rfl
  · exact .inr rfl

/-- A statement that creates an index holds a mark exactly if the name of the database, the schema
or the table looks like one. -/
theorem holdsMark_createStatement (a : Plan.Advisory) :
    let r := recommend a
    (∀ name ∈ [r.database, r.schema, r.table] ++ r.keyColumns.map KeyColumn.name ++
      r.includedColumns, IsPlainName name) →
    (HoldsMark r.createStatement.toList ↔ r.createStatement ≠ "" ∧
      ∃ name ∈ [r.database, r.schema, r.table], LooksLikeMark name) := by
  intro r hnames
  by_cases hkeys : r.keyColumns = []
  · have hempty : r.createStatement = "" := (createStatement_eq_empty_iff a).mpr hkeys
    have hnone : ¬ HoldsMark "".toList := by
      rw [holdsMark_iff]
      exact not_holdsMarkFrom_of_plain (by simp)
    rw [hempty]
    exact iff_of_false hnone (by simp)
  · have hsome : r.createStatement ≠ "" := fun hempty =>
      hkeys ((createStatement_eq_empty_iff a).mp hempty)
    have hkeyNames : ∀ column ∈ r.keyColumns, IsPlainName column.name := fun column hcolumn =>
      hnames _ (List.mem_append_left _ (List.mem_append_right _ (List.mem_map_of_mem hcolumn)))
    have hindex : IsPlainName r.indexName :=
      isPlainName_indexName (hnames r.table (by simp)) hkeyNames
    have hlist : IsPlainName (columnList r) := isPlainName_columnList hkeyNames
      fun name hname => hnames name (List.mem_append_right _ hname)
    have hnone : ¬ HoldsMarkFrom false (columnList r).toList := not_holdsMarkFrom_of_plain hlist
    have hstatement : r.createStatement = r.render := rfl
    have hparts : ∀ part ∈ [("CREATE NONCLUSTERED INDEX ", r.indexName), (" ON ", r.database),
        (".", r.schema), (".", r.table)], IsPlainName part.2 := by
      simpa [hindex] using fun name hname =>
        hnames name (List.mem_append_left _ (List.mem_append_left _ hname))
    rw [and_iff_right hsome, hstatement, holdsMark_iff, render_cut hkeys rfl rfl rfl,
      holdsMarkFrom_withNames ?_ hparts, or_iff_left hnone]
    · simp [not_looksLikeMark_indexName]
    · simp only [List.forall_mem_cons]
      decide

def shownAfter {σ : Type} (p : Progress σ) (recommended : List Recommendation)
    (redundant : List Redundant) : List Shown :=
  (StateT.run (ExceptT.run (Command.showIndexes recommended redundant)) p).2.shown

theorem shownAfter_eq {σ : Type} (p : Progress σ) (recommended : List Recommendation)
    (redundant : List Redundant) :
    shownAfter p recommended redundant = p.shown ++ (recommendationsDisplay recommended ++
      if canShow redundant then redundantDisplay redundant else []) := by
  unfold shownAfter Command.showIndexes
  split
  · rw [← List.append_assoc]
    rfl
  · rw [List.append_nil]
    rfl

theorem mem_recommendationsDisplay {recommended : List Recommendation} {r : Recommendation}
    (h : r ∈ recommended) : .line (recommendationLine r) ∈ recommendationsDisplay recommended := by
  unfold recommendationsDisplay
  rw [if_neg (by simpa using List.ne_nil_of_mem h)]
  exact List.mem_cons_of_mem _ (List.mem_map_of_mem h)

theorem mem_redundantDisplay {redundant : List Redundant} {r : Redundant} (h : r ∈ redundant) :
    .line (dropLine r) ∈ redundantDisplay redundant := by
  unfold redundantDisplay
  rw [if_neg (by simpa using List.ne_nil_of_mem h)]
  exact List.mem_cons_of_mem _ (List.mem_map_of_mem h)

/-- Where the indexes that a plan lacks and those that a catalog repeats are shown, the statement
of each can be read on its line exactly if it holds no mark. If its names have no brackets, that
is if none of them begins like a mark. -/
theorem statements_are_read_iff {σ : Type} (p : Progress σ) (mode : Plan.Mode) (document : String)
    {redundant : List Redundant} (hfound : ∀ r ∈ redundant, IsFound r) :
    let recommended := recommendations (Plan.interpret mode document)
    let shown := shownAfter p recommended redundant
    (∀ r ∈ recommended, .line (recommendationLine r) ∈ shown ∧
      (displayed (recommendationLine r) =
          "  " ++ r.createStatement ++ "  (" ++ r.estimatedImpact.fixed 1 ++ "%)" ↔
        ¬ HoldsMark r.createStatement.toList) ∧
      ((∀ name ∈ [r.database, r.schema, r.table] ++ r.keyColumns.map KeyColumn.name ++
          r.includedColumns, IsPlainName name) →
        (HoldsMark r.createStatement.toList ↔ r.createStatement ≠ "" ∧
          ∃ name ∈ [r.database, r.schema, r.table], LooksLikeMark name))) ∧
    ∀ r ∈ redundant, (canShow redundant = true → .line (dropLine r) ∈ shown) ∧
      (displayed (dropLine r) = "  " ++ r.dropStatement ↔ ¬ HoldsMark r.dropStatement.toList) ∧
      ((∀ cell ∈ [r.name, r.schema, r.table], IsPlainName cell.display) →
        (HoldsMark r.dropStatement.toList ↔
          ∃ cell ∈ [r.name, r.schema, r.table], LooksLikeMark cell.display)) := by
  intro recommended shown
  have hshown : shown = _ := shownAfter_eq p recommended redundant
  constructor
  · intro r hr
    obtain ⟨a, ha, rfl⟩ := List.mem_map.mp hr
    refine ⟨?_, ?_, ?_⟩
    · rw [hshown]
      exact List.mem_append_right _ (List.mem_append_left _ (mem_recommendationsDisplay hr))
    · rw [displayed_recommendationLine (last_of_recommend a), ← displayed_eq_self_iff]
      simp [← String.toList_inj]
    · exact holdsMark_createStatement a
  · intro r hr
    have hdrops : r.dropStatement = dropStatement r.schema r.table r.name :=
      (hfound r hr).dropsItself
    refine ⟨?_, ?_, ?_⟩
    · intro hcan
      rw [hshown, if_pos hcan]
      exact List.mem_append_right _ (List.mem_append_right _ (mem_redundantDisplay hr))
    · rw [displayed_dropLine (hdrops ▸ last_of_dropStatement _ _ _), ← displayed_eq_self_iff]
      simp [← String.toList_inj]
    · rw [hdrops]
      exact holdsMark_dropStatement

def dayPlan (schema : String) : String :=
  "<P><MissingIndexGroup Impact='50'><MissingIndex Database='[Sales]' Schema='[" ++ schema ++
    "]' Table='[Orders]'><ColumnGroup Usage='EQUALITY'><Column Name='[Day]'/></ColumnGroup>" ++
    "</MissingIndex></MissingIndexGroup></P>"

def dayAdvisory (schema : String) : Plan.Advisory :=
  ⟨"Sales", schema, "Orders", ["Day"], [], [], some (.finite 50)⟩

def dayEntries (schema : String) : List Index.Entry :=
  [⟨⟨schema, "Orders", 1⟩, "IX_A", ⟨"Day", 1, false, false⟩⟩,
    ⟨⟨schema, "Orders", 2⟩, "IX_B", ⟨"Day", 1, false, false⟩⟩]

/-- The second index is found. -/
theorem exists_found_day (schema : String) :
    ∃ found, findRedundant ((dayEntries schema).map rowOf) = .ok found ∧
      (∀ r ∈ found, IsFound r) ∧ ∃ r ∈ found,
        r.schema = .text schema ∧ r.table = .text "Orders" ∧ r.name = .text "IX_B" := by
  obtain ⟨found, hfind, hr⟩ := exists_twin schema "Orders" "IX_B"
  exact ⟨found, hfind, fun r hr => ⟨_, found, r, [], hfind, hr, rfl⟩, hr⟩

/-- A name that begins with a capital letter is shown. -/
theorem capital_schema_is_read :
    ∃ found, findRedundant ((dayEntries "Web").map rowOf) = .ok found ∧
      (∀ r ∈ found, IsFound r) ∧
      (∃ r ∈ found, r.dropStatement = "DROP INDEX [IX_B] ON [Web].[Orders]" ∧
        displayed (dropLine r) = "  " ++ r.dropStatement) ∧
      ∃ r ∈ recommendations (Plan.interpret .estimated (dayPlan "Web")),
        r.createStatement =
          "CREATE NONCLUSTERED INDEX [IX_Orders_Day] ON [Sales].[Web].[Orders] (Day ASC)" ∧
        displayed (recommendationLine r) =
          "  " ++ r.createStatement ++ "  (" ++ r.estimatedImpact.fixed 1 ++ "%)" := by
  obtain ⟨found, hfind, hfound, r, hr, hschema, htable, hname⟩ :=
    exists_found_day "Web"
  let start : Progress Unit := ⟨World.start () 0 none, none, [], [], none⟩
  obtain ⟨hcreate, hdrop⟩ := statements_are_read_iff start .estimated (dayPlan "Web") hfound
  refine ⟨found, hfind, hfound, ⟨r, hr, ?_, ?_⟩, ?_⟩
  · have hdrops : r.dropStatement = dropStatement r.schema r.table r.name :=
      (hfound r hr).dropsItself
    rw [hdrops, hschema, htable, hname]
    decide +kernel
  · obtain ⟨-, hread, hmarks⟩ := hdrop r hr
    rw [hschema, htable, hname] at hmarks
    exact hread.mpr fun h => absurd ((hmarks (by decide +kernel)).mp h) (by decide +kernel)
  · have hadvisories : (Plan.interpret .estimated (dayPlan "Web")).advisories =
        [dayAdvisory "Web"] := by decide +kernel
    have hmem : recommend (dayAdvisory "Web") ∈
        recommendations (Plan.interpret .estimated (dayPlan "Web")) := by
      rw [recommendations, hadvisories]
      exact .head _
    obtain ⟨-, hread, hmarks⟩ := hcreate _ hmem
    refine ⟨_, hmem, by decide +kernel, hread.mpr fun h => ?_⟩
    exact absurd ((hmarks (by decide +kernel)).mp h).2 (by decide +kernel)

/-- The name of the schema is taken for a mark, so what is shown has a gap where it stood. -/
theorem small_schema_is_not_read :
    (∃ found, findRedundant ((dayEntries "dbo").map rowOf) = .ok found ∧ ∃ r ∈ found,
      r.dropStatement = "DROP INDEX [IX_B] ON [dbo].[Orders]" ∧
      displayed (dropLine r) = "  DROP INDEX [IX_B] ON .[Orders]" ∧
      displayed (dropLine r) ≠ "  " ++ r.dropStatement) ∧
    ∃ r ∈ recommendations (Plan.interpret .estimated (dayPlan "dbo")),
      r.createStatement =
        "CREATE NONCLUSTERED INDEX [IX_Orders_Day] ON [Sales].[dbo].[Orders] (Day ASC)" ∧
      displayed (recommendationLine r) =
        "  CREATE NONCLUSTERED INDEX [IX_Orders_Day] ON [Sales]..[Orders] (Day ASC)  (50.0%)" ∧
      displayed (recommendationLine r) ≠
        "  " ++ r.createStatement ++ "  (" ++ r.estimatedImpact.fixed 1 ++ "%)" := by
  constructor
  · obtain ⟨found, hfind, hfound, r, hr, hschema, htable, hname⟩ :=
      exists_found_day "dbo"
    have hdrops : r.dropStatement = "DROP INDEX [IX_B] ON [dbo].[Orders]" := by
      rw [show r.dropStatement = dropStatement r.schema r.table r.name from
        (hfound r hr).dropsItself, hschema, htable, hname]
      decide +kernel
    have hshown : displayed (dropLine r) = "  DROP INDEX [IX_B] ON .[Orders]" := by
      rw [dropLine, hdrops]
      decide +kernel
    refine ⟨found, hfind, r, hr, hdrops, hshown, ?_⟩
    rw [hshown, hdrops]
    decide
  · have hadvisories : (Plan.interpret .estimated (dayPlan "dbo")).advisories =
        [dayAdvisory "dbo"] := by decide +kernel
    have hmem : recommend (dayAdvisory "dbo") ∈
        recommendations (Plan.interpret .estimated (dayPlan "dbo")) := by
      rw [recommendations, hadvisories]
      exact .head _
    have hstatement : (recommend (dayAdvisory "dbo")).createStatement =
        "CREATE NONCLUSTERED INDEX [IX_Orders_Day] ON [Sales].[dbo].[Orders] (Day ASC)" := by
      decide +kernel
    have hshown : displayed (recommendationLine (recommend (dayAdvisory "dbo"))) =
        "  CREATE NONCLUSTERED INDEX [IX_Orders_Day] ON [Sales]..[Orders] (Day ASC)  (50.0%)" := by
      decide +kernel
    have himpact : (recommend (dayAdvisory "dbo")).estimatedImpact.fixed 1 = "50.0" := by
      decide +kernel
    refine ⟨_, hmem, hstatement, hshown, ?_⟩
    rw [hshown, hstatement, himpact]
    decide

end QueryTuning.CommandLine
