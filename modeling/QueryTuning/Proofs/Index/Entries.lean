import QueryTuning.Proofs.Index.Catalog

/-!
# Entries of the catalog

A row of the catalog tells that an index has a column. Gathering rows into indexes, and
indexes into tables, puts each item into the group of its key and opens a group for a
new key; so each key gets one group, with all its items in their order.
-/

set_option autoImplicit false

namespace QueryTuning.Index

section

variable {α γ κ : Type} [DecidableEq κ]

def placed (isOf : α → γ → Bool) (add : γ → α → γ) (new : α → γ) (groups : List γ) (a : α) :
    List γ :=
  if groups.any (isOf a) then groups.map fun g => if isOf a g then add g a else g
  else groups ++ [new a]

structure IsGrouping (key : α → κ) (group : κ → List α → γ) (as : List α) (ks : List κ)
    (groups : List γ) : Prop where
  nodup : ks.Nodup
  mem_iff : ∀ k, k ∈ ks ↔ ∃ a ∈ as, key a = k
  eq_map : groups = ks.map fun k => group k (as.filter fun a => key a = k)

variable {isOf : α → γ → Bool} {add : γ → α → γ} {new : α → γ} {key : α → κ}
  {group : κ → List α → γ} {as : List α} {ks : List κ} {groups : List γ} {a : α}

theorem IsGrouping.any_isOf (h : IsGrouping key group as ks groups)
    (hisOf : ∀ k xs a, isOf a (group k xs) = decide (key a = k)) :
    groups.any (isOf a) = true ↔ key a ∈ ks := by
  simp [h.eq_map, hisOf]

/-- The group of a known key grows by the item. -/
theorem IsGrouping.placed_known (h : IsGrouping key group as ks groups) (hk : key a ∈ ks)
    (hisOf : ∀ k xs a, isOf a (group k xs) = decide (key a = k))
    (hadd : ∀ k xs a, xs ≠ [] → add (group k xs) a = group k (xs ++ [a])) :
    IsGrouping key group (as ++ [a]) ks (placed isOf add new groups a) where
  nodup := h.nodup
  mem_iff k := by
    simp only [List.mem_append, List.mem_singleton, or_and_right, exists_or, exists_eq_left,
      ← h.mem_iff]
    exact ⟨.inl, fun hor => hor.elim id fun heq => heq ▸ hk⟩
  eq_map := by
    rw [placed, if_pos ((h.any_isOf hisOf).mpr hk), h.eq_map, List.map_map]
    apply List.map_congr_left
    intro k hk
    obtain ⟨b, hb, hbk⟩ := (h.mem_iff k).mp hk
    have hne : (as.filter fun b => key b = k) ≠ [] :=
      List.ne_nil_of_mem (List.mem_filter.mpr ⟨hb, by simpa using hbk⟩)
    by_cases hak : key a = k <;> simp [hisOf, hak, hadd k _ a hne]

/-- A new key opens a group behind the others. -/
theorem IsGrouping.placed_new (h : IsGrouping key group as ks groups) (hk : key a ∉ ks)
    (hisOf : ∀ k xs a, isOf a (group k xs) = decide (key a = k))
    (hnew : ∀ a, new a = group (key a) [a]) :
    IsGrouping key group (as ++ [a]) (ks ++ [key a]) (placed isOf add new groups a) where
  nodup := List.nodup_append.mpr ⟨h.nodup, by simp, by
    intro k hmem b hb heq
    obtain rfl := List.mem_singleton.mp hb
    exact hk (heq ▸ hmem)⟩
  mem_iff k := by
    simp only [List.mem_append, List.mem_singleton, or_and_right, exists_or, exists_eq_left,
      ← h.mem_iff]
    exact or_congr_right eq_comm
  eq_map := by
    have hnone : (as.filter fun b => key b = key a) = [] := by
      rw [List.filter_eq_nil_iff]
      intro b hb hba
      exact hk ((h.mem_iff _).mpr ⟨b, hb, by simpa using hba⟩)
    rw [placed, if_neg (mt (h.any_isOf hisOf).mp hk), h.eq_map, hnew, List.map_append,
      List.map_singleton]
    congr 1
    · apply List.map_congr_left
      intro k hmem
      have hak : key a ≠ k := fun heq => hk (heq ▸ hmem)
      simp [hak]
    · simp [hnone]

/-- Placing items one after the other makes one group for each key. -/
theorem foldl_placed (hisOf : ∀ k xs a, isOf a (group k xs) = decide (key a = k))
    (hadd : ∀ k xs a, xs ≠ [] → add (group k xs) a = group k (xs ++ [a]))
    (hnew : ∀ a, new a = group (key a) [a]) (as : List α) :
    ∃ ks : List κ, IsGrouping key group as ks (as.foldl (placed isOf add new) []) := by
  induction as using List.reverseRecOn with
  | nil => exact ⟨[], .nil, by simp, rfl⟩
  | append_singleton as a ih =>
    obtain ⟨ks, hks⟩ := ih
    rw [List.foldl_append, List.foldl_cons, List.foldl_nil]
    by_cases hk : key a ∈ ks
    · exact ⟨ks, hks.placed_known hk hisOf hadd⟩
    · exact ⟨ks ++ [key a], hks.placed_new hk hisOf hnew⟩

end

structure IndexKey where
  schema : String
  table : String
  id : Int
  deriving DecidableEq

structure Column where
  name : String
  ordinal : Int
  isIncluded : Bool
  isDescending : Bool
  deriving DecidableEq

structure Entry where
  index : IndexKey
  indexName : String
  column : Column
  deriving DecidableEq

/-- A row from which an entry is read. -/
structure Tells (row : Row) (e : Entry) : Prop where
  schema : row.cell "schema_name" = .ok (.text e.index.schema)
  table : row.cell "table_name" = .ok (.text e.index.table)
  id : ∃ c, row.cell "index_id" = .ok c ∧ c.toInt = .ok e.index.id
  indexName : row.cell "index_name" = .ok (.text e.indexName)
  name : row.cell "column_name" = .ok (.text e.column.name)
  ordinal : ∃ c, row.cell "key_ordinal" = .ok c ∧ c.intOrZero = .ok e.column.ordinal
  isIncluded : ∃ c, row.cell "is_included_column" = .ok c ∧ c.isFilled = e.column.isIncluded
  isDescending : ∃ c, row.cell "is_descending_key" = .ok c ∧ c.isFilled = e.column.isDescending

def rowOf (e : Entry) : Row :=
  [("schema_name", .text e.index.schema), ("table_name", .text e.index.table),
    ("index_id", .integer e.index.id), ("index_name", .text e.indexName),
    ("column_name", .text e.column.name), ("key_ordinal", .integer e.column.ordinal),
    ("is_included_column", .truth e.column.isIncluded),
    ("is_descending_key", .truth e.column.isDescending)]

theorem tells_rowOf (e : Entry) : Tells (rowOf e) e := by
  refine ⟨rfl, rfl, ⟨_, rfl, rfl⟩, rfl, rfl, ⟨_, rfl, ?_⟩, ⟨_, rfl, rfl⟩, ⟨_, rfl, rfl⟩⟩
  by_cases h : e.column.ordinal = 0 <;> simp [Cell.intOrZero, Cell.isFilled, Cell.toInt, h]

theorem tells_rows (entries : List Entry) : List.Forall₂ Tells (entries.map rowOf) entries := by
  rw [List.forall₂_map_left_iff, List.forall₂_same]
  exact fun e _ => tells_rowOf e

def Column.inCatalog (c : Column) : CatalogColumn :=
  ⟨.text c.name, c.ordinal, c.isIncluded, c.isDescending⟩

def columnsOf (entries : List Entry) (k : IndexKey) : List Column :=
  (entries.filter fun e => e.index = k).map Entry.column

def existing (k : IndexKey) (es : List Entry) : Existing where
  schema := .text k.schema
  table := .text k.table
  id := k.id
  name := .text ((es.head?.map Entry.indexName).getD "")
  columns := es.map fun e => e.column.inCatalog

def indexOf (entries : List Entry) (k : IndexKey) : Existing :=
  existing k (entries.filter fun e => e.index = k)

def IndexKey.home (k : IndexKey) : String × String := (k.schema, k.table)

def tableWith (entries : List Entry) (t : String × String) (ks : List IndexKey) : TableIndexes where
  schema := .text t.1
  table := .text t.2
  indexes := ks.map (indexOf entries)

def addEntry : List Existing → Entry → List Existing :=
  placed (fun e i => i.isOf (.text e.index.schema) (.text e.index.table) e.index.id)
    (fun i e => i.add e.column.inCatalog) fun e => existing e.index [e]

theorem columnOf_tells {row : Row} {e : Entry} (h : Tells row e) :
    columnOf row = .ok e.column.inCatalog := by
  obtain ⟨c, hc, hordinal⟩ := h.ordinal
  obtain ⟨i, hi, hincluded⟩ := h.isIncluded
  obtain ⟨d, hd, hdescending⟩ := h.isDescending
  simp only [columnOf, h.name, hc, hordinal, hi, hd, bind, Except.bind, hincluded, hdescending]
  rfl

theorem gatherRow_tells {row : Row} {e : Entry} (h : Tells row e) (indexes : List Existing) :
    gatherRow indexes row = .ok (addEntry indexes e) := by
  obtain ⟨c, hc, hid⟩ := h.id
  simp only [gatherRow, h.schema, h.table, hc, hid, h.indexName, columnOf_tells h, bind,
    Except.bind, addEntry, placed]
  split <;> rfl

theorem gather_tells {rows : List Row} {entries : List Entry}
    (h : List.Forall₂ Tells rows entries) :
    gather rows = .ok (entries.foldl addEntry []) := by
  have hfrom : ∀ indexes : List Existing,
      rows.foldlM gatherRow indexes = .ok (entries.foldl addEntry indexes) := by
    induction h with
    | nil => exact fun indexes => rfl
    | cons hrow _ ih =>
      intro indexes
      rw [List.foldlM_cons, gatherRow_tells hrow]
      exact ih _
  exact hfrom []

/-- A catalog has one index for each key that its entries mention. -/
theorem exists_indexes (entries : List Entry) :
    ∃ ks, IsGrouping Entry.index existing entries ks (entries.foldl addEntry []) := by
  apply foldl_placed
  · intro k es e
    have hcells : (existing k es).isOf (.text e.index.schema) (.text e.index.table) e.index.id =
        (k.schema == e.index.schema && k.table == e.index.table && k.id == e.index.id) := rfl
    rw [hcells]
    obtain ⟨⟨_, _, _⟩, _, _⟩ := e
    obtain ⟨_, _, _⟩ := k
    grind
  · intro k es e hne
    obtain ⟨f, fs, rfl⟩ := List.exists_cons_of_ne_nil hne
    simp [existing, Existing.add]
  · exact fun e => rfl

/-- Indexes lie in one table for each schema and name of a table. -/
theorem exists_tables (entries : List Entry) (ks : List IndexKey) :
    ∃ ts, IsGrouping IndexKey.home (tableWith entries) ks ts
      (byTable (ks.map (indexOf entries))) := by
  have hfold : byTable (ks.map (indexOf entries)) = ks.foldl (placed
      (fun k t => t.schema.same (.text k.schema) && t.table.same (.text k.table))
      (fun t k => { t with indexes := t.indexes ++ [indexOf entries k] })
      fun k => tableWith entries k.home [k]) [] := by
    rw [byTable, List.foldl_map]
    rfl
  rw [hfold]
  apply foldl_placed
  · intro t ks k
    have hcells : ((tableWith entries t ks).schema.same (.text k.schema) &&
        (tableWith entries t ks).table.same (.text k.table)) =
          (t.1 == k.schema && t.2 == k.table) := rfl
    rw [hcells]
    obtain ⟨_, _⟩ := t
    obtain ⟨_, _, _⟩ := k
    simp only [IndexKey.home]
    grind
  · intro t ks k _
    simp [tableWith]
  · exact fun k => rfl

end QueryTuning.Index
