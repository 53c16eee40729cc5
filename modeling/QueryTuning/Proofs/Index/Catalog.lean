import QueryTuning.Index.Redundant
import QueryTuning.Proofs.Lists
import QueryTuning.Proofs.Measure.Figures

/-!
# Replies of the catalog

Catalog rows that have all their columns, each of its sort, can be gathered and
compared. What a server tells about the use of an index is added to its report
and changes nothing else in it.
-/

set_option autoImplicit false

namespace QueryTuning.Index

def catalogColumns : List String :=
  ["schema_name", "table_name", "index_id", "index_name", "column_name", "key_ordinal",
    "is_included_column", "is_descending_key"]

structure IsCatalogRow (row : Row) : Prop where
  present : ∀ column ∈ catalogColumns, ∃ c, row.find? column = some c
  id : ∃ n, row.find? "index_id" = some (.integer n)
  name : ∃ s, row.find? "column_name" = some (.text s)
  ordinal : ∀ c, row.find? "key_ordinal" = some c → c.IsFigure

def CatalogColumn.IsNamed (c : CatalogColumn) : Prop := ∃ s, c.name = .text s

def Existing.IsNamed (i : Existing) : Prop := ∀ c ∈ i.columns, c.IsNamed

theorem IsCatalogRow.cell_ok {row : Row} (h : IsCatalogRow row) (column : String)
    (hc : column ∈ catalogColumns) : ∃ c, row.cell column = .ok c := by
  obtain ⟨c, hf⟩ := h.present column hc
  exact ⟨c, by rw [Row.cell, hf]⟩

theorem columnOf_ok {row : Row} (h : IsCatalogRow row) :
    ∃ c, columnOf row = .ok c ∧ c.IsNamed := by
  obtain ⟨s, hs⟩ := h.name
  have hname : row.cell "column_name" = .ok (.text s) := by rw [Row.cell, hs]
  obtain ⟨c, hc⟩ := h.present "key_ordinal" (by decide)
  have hordinal : row.cell "key_ordinal" = .ok c := by rw [Row.cell, hc]
  obtain ⟨n, hn⟩ := Cell.intOrZero_ok (h.ordinal c hc)
  obtain ⟨included, hi⟩ := h.cell_ok "is_included_column" (by decide)
  obtain ⟨descending, hd⟩ := h.cell_ok "is_descending_key" (by decide)
  simp only [columnOf, hname, hordinal, hn, hi, hd, bind, Except.bind]
  exact ⟨_, rfl, s, rfl⟩

/-- A row is added to the indexes, whose columns all stay named. -/
theorem gatherRow_ok {row : Row} (h : IsCatalogRow row) {indexes : List Existing}
    (hi : ∀ i ∈ indexes, i.IsNamed) :
    ∃ found, gatherRow indexes row = .ok found ∧ ∀ i ∈ found, i.IsNamed := by
  obtain ⟨schema, hschema⟩ := h.cell_ok "schema_name" (by decide)
  obtain ⟨table, htable⟩ := h.cell_ok "table_name" (by decide)
  obtain ⟨name, hname⟩ := h.cell_ok "index_name" (by decide)
  obtain ⟨n, hn⟩ := h.id
  have hid : row.cell "index_id" = .ok (.integer n) := by rw [Row.cell, hn]
  obtain ⟨c, hc, hnamed⟩ := columnOf_ok h
  simp only [gatherRow, hschema, htable, hid, Cell.toInt, bind, Except.bind]
  split
  · rw [hc]
    refine ⟨_, rfl, ?_⟩
    intro i hmem
    obtain ⟨j, hj, rfl⟩ := List.mem_map.mp hmem
    split
    · intro d hd
      rcases List.mem_append.mp hd with hd | hd
      · exact hi j hj d hd
      · rw [List.mem_singleton.mp hd]
        exact hnamed
    · exact hi j hj
  · rw [hname, hc]
    refine ⟨_, rfl, ?_⟩
    intro i hmem
    rcases List.mem_append.mp hmem with hmem | hmem
    · exact hi i hmem
    · rw [List.mem_singleton.mp hmem]
      intro d hd
      rw [List.mem_singleton.mp hd]
      exact hnamed

theorem foldlM_gatherRow_ok {rows : List Row} (h : ∀ row ∈ rows, IsCatalogRow row)
    {indexes : List Existing} (hi : ∀ i ∈ indexes, i.IsNamed) :
    ∃ found, rows.foldlM gatherRow indexes = .ok found ∧ ∀ i ∈ found, i.IsNamed := by
  induction rows generalizing indexes with
  | nil => exact ⟨indexes, rfl, hi⟩
  | cons row rows ih =>
    obtain ⟨next, hnext, hn⟩ := gatherRow_ok (h row List.mem_cons_self) hi
    obtain ⟨found, hfound, hf⟩ := ih (fun r hr => h r (List.mem_cons_of_mem _ hr)) hn
    refine ⟨found, ?_, hf⟩
    rw [List.foldlM_cons, hnext]
    exact hfound

theorem addToTable_named {tables : List TableIndexes} {i : Existing}
    (h : ∀ t ∈ tables, ∀ j ∈ t.indexes, j.IsNamed) (hi : i.IsNamed) :
    ∀ t ∈ addToTable tables i, ∀ j ∈ t.indexes, j.IsNamed := by
  unfold addToTable
  dsimp only
  split
  · intro t ht
    obtain ⟨u, hu, rfl⟩ := List.mem_map.mp ht
    split
    · intro j hj
      rcases List.mem_append.mp hj with hj | hj
      · exact h u hu j hj
      · rw [List.mem_singleton.mp hj]
        exact hi
    · exact h u hu
  · intro t ht
    rcases List.mem_append.mp ht with ht | ht
    · exact h t ht
    · rw [List.mem_singleton.mp ht]
      intro j hj
      rw [List.mem_singleton.mp hj]
      exact hi

theorem byTable_named {indexes : List Existing} (hi : ∀ i ∈ indexes, i.IsNamed)
    {tables : List TableIndexes} (h : ∀ t ∈ tables, ∀ j ∈ t.indexes, j.IsNamed) :
    ∀ t ∈ indexes.foldl addToTable tables, ∀ j ∈ t.indexes, j.IsNamed := by
  induction indexes generalizing tables with
  | nil => exact h
  | cons i indexes ih =>
    exact ih (fun j hj => hi j (List.mem_cons_of_mem _ hj))
      (addToTable_named h (hi i List.mem_cons_self))

/-- Columns with names can all be compared. -/
theorem includedColumns_eq {columns : List CatalogColumn} (h : ∀ c ∈ columns, c.IsNamed) :
    includedColumns columns = .ok ((columns.filter CatalogColumn.isIncluded).mergeSort
      fun a b => !nameAfter a.name b.name) := by
  have hfilter : ∀ c ∈ columns.filter CatalogColumn.isIncluded, c.IsNamed :=
    fun c hc => h c (List.mem_of_mem_filter hc)
  unfold includedColumns
  split
  next heq => rw [heq, List.mergeSort_nil]
  next c heq => rw [heq, List.mergeSort_singleton]
  next c cs _ heq =>
    rw [heq] at hfilter ⊢
    obtain ⟨s, hs⟩ := hfilter c List.mem_cons_self
    have hloop : ∀ ds : List CatalogColumn, (∀ d ∈ ds, d.IsNamed) →
        (forIn ds PUnit.unit fun d _ => do
          let _ ← d.name.lt? c.name
          pure PUnit.unit
          pure (ForInStep.yield PUnit.unit) : Except ValueFault PUnit) = .ok PUnit.unit := by
      intro ds hds
      induction ds with
      | nil => rfl
      | cons d ds ih =>
        obtain ⟨t, ht⟩ := hds d List.mem_cons_self
        have hlt : d.name.lt? c.name = .ok (decide (t < s)) := by
          rw [ht, hs]
          rfl
        rw [List.forIn_cons, hlt]
        exact ih fun e he => hds e (List.mem_cons_of_mem _ he)
    rw [hloop cs fun d hd => hfilter d (List.mem_cons_of_mem _ hd)]
    rfl

theorem signature_ok {columns : List CatalogColumn} (h : ∀ c ∈ columns, c.IsNamed) :
    ∃ s, signature columns = .ok s := by
  have hincluded : ∀ c ∈ (columns.filter CatalogColumn.isIncluded).mergeSort
      fun a b => !nameAfter a.name b.name, c.IsNamed :=
    fun c hc => h c (List.mem_of_mem_filter (List.mem_mergeSort.mp hc))
  have hkeys : ∀ c ∈ keyColumns columns, c.IsNamed :=
    fun c hc => h c (List.mem_of_mem_filter (List.mem_mergeSort.mp hc))
  have hcolumns : ∀ c ∈ keyColumns columns ++ (columns.filter CatalogColumn.isIncluded).mergeSort
      fun a b => !nameAfter a.name b.name, ∃ s, signatureColumn c = .ok s := by
    intro c hc
    obtain ⟨s, hs⟩ := (List.mem_append.mp hc).elim (hkeys c) (hincluded c)
    exact ⟨_, by rw [signatureColumn, hs]⟩
  obtain ⟨s, hs⟩ := mapM_ok hcolumns
  exact ⟨s, by rw [signature, includedColumns_eq h]; exact hs⟩

theorem repeats_ok {schema table : Cell} {is : List Existing} (h : ∀ i ∈ is, i.IsNamed)
    (seen : List (Signature × Existing)) : ∃ found, repeats schema table seen is = .ok found := by
  induction is generalizing seen with
  | nil => exact ⟨[], rfl⟩
  | cons i is ih =>
    obtain ⟨s, hs⟩ := signature_ok (h i List.mem_cons_self)
    have hrest := ih fun j hj => h j (List.mem_cons_of_mem _ hj)
    simp only [repeats, hs, bind, Except.bind]
    split
    · obtain ⟨found, hfound⟩ := hrest seen
      exact ⟨_, by rw [hfound]; rfl⟩
    · exact hrest _

/-- The redundant indexes among well-formed catalog rows are always found. -/
theorem findRedundant_ok {rows : List Row} (h : ∀ row ∈ rows, IsCatalogRow row) :
    ∃ found, findRedundant rows = .ok found := by
  have hnone : ∀ i ∈ ([] : List Existing), i.IsNamed := by simp
  have hempty : ∀ t ∈ ([] : List TableIndexes), ∀ i ∈ t.indexes, i.IsNamed := by simp
  obtain ⟨indexes, hgather, hi⟩ := foldlM_gatherRow_ok h hnone
  have hnamed := byTable_named hi hempty
  have htables : ∀ t ∈ byTable indexes, ∃ found, redundantIn t = .ok found := by
    intro t ht
    exact repeats_ok (fun i hi => hnamed t ht i (List.mem_mergeSort.mp hi)) []
  obtain ⟨found, hfound⟩ := mapM_ok htables
  refine ⟨found.flatten, ?_⟩
  unfold findRedundant gather
  rw [hgather]
  simp only [bind, Except.bind, hfound]
  rfl

def usageFigures : List String := ["size_mb", "usage_count"]

structure IsUsage (row : Row) : Prop where
  figures : ∀ column ∈ usageFigures, (row.cellOrNull column).IsFigure
  moments : ∀ column m, row.cellOrNull column = .moment m → m.offset = none

theorem latest_ok {m : Moment} {ms : List Moment} (h : m.offset = none)
    (hs : ∀ n ∈ ms, n.offset = none) : ∃ last, Moment.latest m ms = .ok last := by
  unfold Moment.latest
  induction ms generalizing m with
  | nil => exact ⟨m, rfl⟩
  | cons n ms ih =>
    have hn := hs n List.mem_cons_self
    have hrest : ∀ k ∈ ms, k.offset = none := fun k hk => hs k (List.mem_cons_of_mem _ hk)
    have hlt : m.lt? n = .ok (decide (m.instant < n.instant)) := by
      rw [Moment.lt?, h, hn, if_pos rfl]
    rw [List.foldlM_cons, hlt]
    by_cases hless : m.instant < n.instant
    · rw [decide_eq_true hless]
      exact ih hn hrest
    · rw [decide_eq_false hless]
      exact ih h hrest

theorem lastUsed_ok {row : Row} (h : IsUsage row) : ∃ last, lastUsed row = .ok last := by
  unfold lastUsed
  dsimp only
  split
  · exact ⟨none, rfl⟩
  next m ms heq =>
    have hall : ∀ n ∈ m :: ms, n.offset = none := by
      intro n hn
      rw [← heq] at hn
      obtain ⟨column, -, hc⟩ := List.mem_filterMap.mp hn
      split at hc
      next k hk =>
        cases hc
        exact h.moments column n hk
      · cases hc
    obtain ⟨last, hlast⟩ :=
      latest_ok (hall m List.mem_cons_self) fun n hn => hall n (List.mem_cons_of_mem _ hn)
    exact ⟨some last, by rw [hlast]; rfl⟩

namespace Redundant

structure Verdict where
  schema : Cell
  table : Cell
  name : Cell
  reason : String
  recommendation : String
  dropStatement : String

def verdict (r : Redundant) : Verdict :=
  ⟨r.schema, r.table, r.name, r.reason, r.recommendation, r.dropStatement⟩

end Redundant

/-- Figures are all that usage rows can change. -/
theorem figures_of_withUsage {usage : List Row} {r r' : Redundant} (h : withUsage usage r = .ok r') :
    ∃ sizeMb usageCount lastUsed, r' = { r with sizeMb, usageCount, lastUsed } := by
  unfold withUsage at h
  split at h
  · cases h
    exact ⟨r.sizeMb, r.usageCount, r.lastUsed, rfl⟩
  next row _ =>
    cases hsize : (row.cellOrNull "size_mb").realOrZero <;>
      cases hcount : (row.cellOrNull "usage_count").intOrZero <;>
      cases hlast : lastUsed row <;>
      simp only [hsize, hcount, hlast, bind, Except.bind, reduceCtorEq] at h
    cases h
    exact ⟨_, _, _, rfl⟩

theorem withUsage_ok {usage : List Row} (h : ∀ row ∈ usage, IsUsage row) (r : Redundant) :
    ∃ r', withUsage usage r = .ok r' ∧ r'.verdict = r.verdict := by
  unfold withUsage
  split
  · exact ⟨r, rfl, rfl⟩
  next row heq =>
    have hrow := h row (List.mem_of_find?_eq_some heq)
    obtain ⟨size, hsize, -⟩ := Cell.realOrZero_ok (hrow.figures "size_mb" (by decide))
    obtain ⟨count, hcount⟩ := Cell.intOrZero_ok (hrow.figures "usage_count" (by decide))
    obtain ⟨last, hlast⟩ := lastUsed_ok hrow
    rw [hsize, hcount, hlast]
    exact ⟨_, rfl, rfl⟩

def IsFound (r : Redundant) : Prop :=
  ∃ rows found first usage, findRedundant rows = .ok found ∧ first ∈ found ∧
    withUsage usage first = .ok r

def DropsItself (r : Redundant) : Prop := r.dropStatement = dropStatement r.schema r.table r.name

theorem dropsItself_of_repeats {schema table : Cell} {seen : List (Signature × Existing)}
    {is : List Existing} {found : List Redundant} (h : repeats schema table seen is = .ok found) :
    ∀ r ∈ found, DropsItself r := by
  induction is generalizing seen found with
  | nil =>
    cases h
    simp
  | cons i is ih =>
    rw [repeats] at h
    cases hs : signature i.columns with
    | error fault => simp [hs, bind, Except.bind] at h
    | ok s =>
      simp only [hs, bind, Except.bind] at h
      split at h
      next first _ =>
        split at h
        · cases h
        next others hothers =>
          cases h
          exact List.forall_mem_cons.mpr ⟨rfl, ih hothers⟩
      · exact ih h

theorem dropsItself_of_found {rows : List Row} {found : List Redundant}
    (h : findRedundant rows = .ok found) : ∀ r ∈ found, DropsItself r := by
  unfold findRedundant at h
  cases hindexes : gather rows with
  | error fault => simp [hindexes, bind, Except.bind] at h
  | ok indexes =>
    cases hparts : (byTable indexes).mapM redundantIn with
    | error fault => simp [hindexes, hparts, bind, Except.bind] at h
    | ok parts =>
      simp only [hindexes, hparts, bind, Except.bind, pure, Except.pure, Except.ok.injEq] at h
      subst h
      intro r hr
      obtain ⟨part, hpart, hmem⟩ := List.mem_flatten.mp hr
      obtain ⟨table, -, htable⟩ := exists_of_mem_mapM hparts hpart
      exact dropsItself_of_repeats htable r hmem

theorem DropsItself.withUsage {usage : List Row} {r r' : Redundant} (hr : DropsItself r)
    (h : withUsage usage r = .ok r') : DropsItself r' := by
  obtain ⟨_, _, _, rfl⟩ := figures_of_withUsage h
  exact hr

theorem IsFound.dropsItself {r : Redundant} (h : IsFound r) : DropsItself r := by
  obtain ⟨rows, found, first, usage, hfound, hfirst, husage⟩ := h
  exact (dropsItself_of_found hfound first hfirst).withUsage husage

end QueryTuning.Index
