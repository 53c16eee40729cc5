import QueryTuning.Proofs.Index.Signatures

/-!
# Indexes that repeat others

Among the indexes of a table those with a smaller id are seen first. An index is reported
exactly if one that is seen before it has the same columns; the report cites the one of
least id, which stays, so dropping what is reported leaves one index of each kind.
-/

set_option autoImplicit false

namespace QueryTuning.Index

def firstLike (s : IndexKey → Signature) (ks : List IndexKey) (k : IndexKey) : IndexKey :=
  (ks.find? fun j => s j == s k).getD k

def repeatedIn (s : IndexKey → Signature) (ks : List IndexKey) : List IndexKey :=
  ks.filter fun k => firstLike s ks k ≠ k

section

variable {f : IndexKey → Existing} {s : IndexKey → Signature} {schema table : Cell}
  {done rest : List IndexKey} {seen : List (Signature × Existing)} {j k : IndexKey}

def HasSeen (f : IndexKey → Existing) (s : IndexKey → Signature) (done : List IndexKey)
    (seen : List (Signature × Existing)) : Prop :=
  ∀ x, (seen.find? fun entry => entry.1 == x) = (done.find? fun j => s j == x).map fun j => (x, f j)

theorem find?_signature_append (x : Signature) :
    ((done ++ [k]).find? fun j => s j == x) =
      (done.find? fun j => s j == x).or (if s k = x then some k else none) := by
  rw [List.find?_append]
  by_cases hx : s k = x <;> simp [hx]

theorem HasSeen.known (h : HasSeen f s done seen) (hj : (done.find? fun j => s j == s k) = some j) :
    HasSeen f s (done ++ [k]) seen := by
  intro x
  rw [h x, find?_signature_append]
  by_cases hx : s k = x
  · rw [← hx, hj]
    rfl
  · simp [hx]

theorem HasSeen.new (h : HasSeen f s done seen) (hnone : (done.find? fun j => s j == s k) = none) :
    HasSeen f s (done ++ [k]) (seen ++ [(s k, f k)]) := by
  intro x
  rw [List.find?_append, h x, find?_signature_append]
  by_cases hx : s k = x
  · rw [← hx, hnone]
    simp
  · simp [hx]

theorem firstLike_known (hj : (done.find? fun j => s j == s k) = some j) :
    firstLike s (done ++ k :: rest) k = j := by
  simp [firstLike, List.find?_append, hj]

theorem firstLike_new (hnone : (done.find? fun j => s j == s k) = none) :
    firstLike s (done ++ k :: rest) k = k := by
  simp [firstLike, List.find?_append, hnone]

/-- An index of a known signature is reported. -/
theorem repeats_known (hs : ∀ k, signature (f k).columns = .ok (s k)) (h : HasSeen f s done seen)
    (hj : (done.find? fun j => s j == s k) = some j) (is : List Existing) :
    repeats schema table seen (f k :: is) =
      (repeats schema table seen is).map (redundantWith schema table (f j) (f k) :: ·) := by
  rw [repeats, hs]
  simp only [bind, Except.bind]
  rw [h (s k), hj]
  rfl

/-- An index of a new signature is kept in mind. -/
theorem repeats_new (hs : ∀ k, signature (f k).columns = .ok (s k)) (h : HasSeen f s done seen)
    (hnone : (done.find? fun j => s j == s k) = none) (is : List Existing) :
    repeats schema table seen (f k :: is) =
      repeats schema table (seen ++ [(s k, f k)]) is := by
  rw [repeats, hs]
  simp only [bind, Except.bind]
  rw [h (s k), hnone]
  rfl

/-- The scan goes on with `rest` when it has seen `done`. -/
theorem repeats_seen (hs : ∀ k, signature (f k).columns = .ok (s k)) (h : HasSeen f s done seen)
    (hnodup : (done ++ rest).Nodup) :
    repeats schema table seen (rest.map f) =
      .ok ((rest.filter fun k => firstLike s (done ++ rest) k ≠ k).map fun k =>
        redundantWith schema table (f (firstLike s (done ++ rest) k)) (f k)) := by
  induction rest generalizing done seen with
  | nil => rfl
  | cons k rest ih =>
    have hsplit : done ++ k :: rest = (done ++ [k]) ++ rest := by simp
    rw [List.map_cons]
    cases hfound : done.find? fun j => s j == s k with
    | some j =>
      have hfirst : firstLike s (done ++ k :: rest) k = j := firstLike_known hfound
      have hne : j ≠ k := by
        rintro rfl
        exact (List.nodup_append.mp hnodup).2.2 j (List.mem_of_find?_eq_some hfound) j (by simp) rfl
      rw [repeats_known hs h hfound, ih (h.known hfound) (hsplit ▸ hnodup), ← hsplit,
        List.filter_cons_of_pos (by simpa [hfirst] using hne), List.map_cons, hfirst]
      rfl
    | none =>
      have hfirst : firstLike s (done ++ k :: rest) k = k := firstLike_new hfound
      rw [repeats_new hs h hfound, ih (h.new hfound) (hsplit ▸ hnodup), ← hsplit,
        List.filter_cons_of_neg (by simp [hfirst])]

theorem repeats_eq (hs : ∀ k, signature (f k).columns = .ok (s k)) (schema table : Cell)
    {ks : List IndexKey} (hnodup : ks.Nodup) :
    repeats schema table [] (ks.map f) = .ok ((repeatedIn s ks).map fun k =>
      redundantWith schema table (f (firstLike s ks k)) (f k)) := by
  have hseen : HasSeen f s [] [] := fun _ => rfl
  exact repeats_seen hs hseen hnodup

end

/-- Each index has one name, and its columns are told apart. The columns of a table are spelled in
one way, and no two of them differ in case only. -/
structure Consistent (entries : List Entry) : Prop where
  named : ∀ e ∈ entries, ∀ f ∈ entries, e.index = f.index → e.indexName = f.indexName
  distinct : ∀ e ∈ entries, Distinct (columnsOf entries e.index)
  spelled : ∀ e ∈ entries, ∀ f ∈ entries, e.index.home = f.index.home →
    lowerCase e.column.name = lowerCase f.column.name → e.column.name = f.column.name

instance : DecidablePred Consistent := fun entries =>
  decidable_of_iff ((∀ e ∈ entries, ∀ f ∈ entries, e.index = f.index → e.indexName = f.indexName) ∧
      (∀ e ∈ entries, Distinct (columnsOf entries e.index)) ∧
      ∀ e ∈ entries, ∀ f ∈ entries, e.index.home = f.index.home →
        lowerCase e.column.name = lowerCase f.column.name → e.column.name = f.column.name)
    ⟨fun h => ⟨h.1, h.2.1, h.2.2⟩, fun h => ⟨h.named, h.distinct, h.spelled⟩⟩

def Mentioned (entries : List Entry) (k : IndexKey) : Prop := ∃ e ∈ entries, e.index = k

instance (entries : List Entry) : DecidablePred (Mentioned entries) := fun k =>
  inferInstanceAs (Decidable (∃ e ∈ entries, e.index = k))

/-- Indexes of one table with the same columns: keys and included ones, each with its name, its
ordinal and its direction. -/
def Alike (entries : List Entry) (j k : IndexKey) : Prop :=
  j.home = k.home ∧ ∀ c, c ∈ columnsOf entries j ↔ c ∈ columnsOf entries k

/-- The index of least id among those that are like a given one. -/
structure Cited (entries : List Entry) (k first : IndexKey) : Prop where
  mentioned : Mentioned entries first
  alike : Alike entries first k
  least : ∀ j, Mentioned entries j → Alike entries j k → first.id ≤ j.id

def IsNamed (entries : List Entry) (k : IndexKey) (name : String) : Prop :=
  ∃ e ∈ entries, e.index = k ∧ e.indexName = name

def Reports (entries : List Entry) (k : IndexKey) (r : Redundant) : Prop :=
  ∃ name first firstName, IsNamed entries k name ∧ Cited entries k first ∧
    IsNamed entries first firstName ∧
    r = { schema := .text k.schema, table := .text k.table, name := .text name,
          reason := "Potentially redundant with " ++ firstName,
          recommendation := redundantAdvice,
          dropStatement :=
            "DROP INDEX [" ++ name ++ "] ON [" ++ k.schema ++ "].[" ++ k.table ++ "]",
          sizeMb := .zero, usageCount := 0, lastUsed := none }

structure AreRepeats (entries : List Entry) (found : List IndexKey) : Prop where
  nodup : found.Nodup
  mem_iff : ∀ k, k ∈ found ↔
    Mentioned entries k ∧ ∃ j, Mentioned entries j ∧ j.id < k.id ∧ Alike entries j k
  ordered : found.Pairwise fun j k => j.home = k.home → j.id < k.id

theorem key_ext {j k : IndexKey} (hhome : j.home = k.home) (hid : j.id = k.id) : j = k := by
  cases j
  cases k
  simp_all [IndexKey.home]

variable {entries : List Entry} {j k first : IndexKey}

theorem Alike.refl (k : IndexKey) : Alike entries k k := ⟨rfl, fun _ => Iff.rfl⟩

theorem Alike.symm (h : Alike entries j k) : Alike entries k j :=
  ⟨h.1.symm, fun c => (h.2 c).symm⟩

theorem Alike.trans {i : IndexKey} (h : Alike entries i j) (h' : Alike entries j k) :
    Alike entries i k :=
  ⟨h.1.trans h'.1, fun c => (h.2 c).trans (h'.2 c)⟩

theorem Cited.unique {second : IndexKey} (h : Cited entries k first) (h' : Cited entries k second) :
    first = second := by
  apply key_ext (h.alike.1.trans h'.alike.1.symm)
  have := h.least second h'.mentioned h'.alike
  have := h'.least first h.mentioned h.alike
  omega

/-- What a report cites is an index of its own table that is not reported. -/
theorem AreRepeats.cited_not_mem {found : List IndexKey} (h : AreRepeats entries found)
    (hcited : Cited entries k first) : first ∉ found := by
  intro hmem
  obtain ⟨-, j, hj, hless, halike⟩ := (h.mem_iff first).mp hmem
  have := hcited.least j hj (halike.trans hcited.alike)
  omega

/-- Of the indexes that are alike exactly the one that is cited for them stays. -/
theorem AreRepeats.existsUnique_kept {found : List IndexKey} (h : AreRepeats entries found)
    (hcited : Cited entries k first) :
    ∃! j, Mentioned entries j ∧ Alike entries j k ∧ j ∉ found := by
  refine ⟨first, ⟨hcited.mentioned, hcited.alike, h.cited_not_mem hcited⟩, ?_⟩
  rintro j ⟨hj, halike, hkept⟩
  have hle := hcited.least j hj halike
  have hnot : ¬ first.id < j.id := fun hless => hkept ((h.mem_iff j).mpr
    ⟨hj, first, hcited.mentioned, hless, hcited.alike.trans halike.symm⟩)
  exact key_ext (halike.1.trans hcited.alike.1.symm) (by omega)

def signatureIn (entries : List Entry) (k : IndexKey) : Signature :=
  signatureOf (columnsOf entries k)

theorem signature_indexOf (k : IndexKey) :
    signature (indexOf entries k).columns = .ok (signatureIn entries k) := by
  have hcolumns : (indexOf entries k).columns = (columnsOf entries k).map Column.inCatalog := by
    simp [indexOf, existing, columnsOf]
  rw [hcolumns, signature_inCatalog, signatureIn]

theorem mem_columnsOf {c : Column} :
    c ∈ columnsOf entries k ↔ ∃ e ∈ entries, e.index = k ∧ e.column = c := by
  simp [columnsOf, and_assoc]

theorem signatureIn_eq_iff (hc : Consistent entries) (hj : Mentioned entries j)
    (hk : Mentioned entries k) (hhome : j.home = k.home) :
    signatureIn entries j = signatureIn entries k ↔ Alike entries j k := by
  obtain ⟨e, he, rfl⟩ := hj
  obtain ⟨f, hf, rfl⟩ := hk
  rw [signatureIn, signatureIn,
    signatureOf_eq_iff (hc.distinct e he) (hc.distinct f hf), Alike, and_iff_right hhome]
  intro c hce d hdf hname
  obtain ⟨e', he', heq, rfl⟩ := mem_columnsOf.mp hce
  obtain ⟨f', hf', heq', rfl⟩ := mem_columnsOf.mp hdf
  exact hc.spelled e' he' f' hf' (by rw [heq, heq', hhome]) hname

def byId (ks : List IndexKey) : List IndexKey := ks.mergeSort fun j k => j.id ≤ k.id

theorem byId_sorted (ks : List IndexKey) : (byId ks).Pairwise fun j k => j.id ≤ k.id := by
  have hsorted : (byId ks).Pairwise fun j k => decide (j.id ≤ k.id) = true := by
    apply List.pairwise_mergeSort
    · intro i j k hij hjk
      simp only [decide_eq_true_eq] at *
      omega
    · intro j k
      simp only [Bool.or_eq_true, decide_eq_true_eq]
      omega
  exact hsorted.imp fun h => of_decide_eq_true h

theorem mem_byId {ks : List IndexKey} : k ∈ byId ks ↔ k ∈ ks := List.mem_mergeSort

theorem nodup_byId {ks : List IndexKey} (h : ks.Nodup) : (byId ks).Nodup :=
  (List.mergeSort_perm ks _).nodup_iff.mpr h

/-- The first index with a signature has the least id. -/
theorem firstLike_spec {s : IndexKey → Signature} {ks : List IndexKey} (hk : k ∈ byId ks) :
    firstLike s (byId ks) k ∈ ks ∧ s (firstLike s (byId ks) k) = s k ∧
      ∀ j ∈ ks, s j = s k → (firstLike s (byId ks) k).id ≤ j.id := by
  obtain ⟨first, hfirst⟩ : ∃ first, ((byId ks).find? fun j => s j == s k) = some first := by
    rw [← Option.isSome_iff_exists, List.find?_isSome]
    exact ⟨k, hk, by simp⟩
  have heq : firstLike s (byId ks) k = first := by simp [firstLike, hfirst]
  obtain ⟨hsame, before, later, hsplit, hnone⟩ := List.find?_eq_some_iff_append.mp hfirst
  rw [heq]
  refine ⟨mem_byId.mp (List.mem_of_find?_eq_some hfirst), by simpa using hsame, fun j hj hjk => ?_⟩
  have hsorted := byId_sorted ks
  have hmem := mem_byId.mpr hj
  rw [hsplit] at hsorted hmem
  rcases List.mem_append.mp hmem with hbefore | hlater
  · simpa [hjk] using hnone j hbefore
  · rcases List.mem_cons.mp hlater with rfl | hlater
    · exact Int.le_refl _
    · exact (List.pairwise_cons.mp (List.pairwise_append.mp hsorted).2.1).1 j hlater

def firstIn (entries : List Entry) (ks : List IndexKey) (k : IndexKey) : IndexKey :=
  firstLike (signatureIn entries) (byId (ks.filter fun j => j.home = k.home)) k

def repeatedAmong (entries : List Entry) (ks : List IndexKey) (ts : List (String × String)) :
    List IndexKey :=
  ts.flatMap fun t => repeatedIn (signatureIn entries) (byId (ks.filter fun k => k.home = t))

def reportOf (entries : List Entry) (ks : List IndexKey) (k : IndexKey) : Redundant :=
  redundantWith (.text k.schema) (.text k.table) (indexOf entries (firstIn entries ks k))
    (indexOf entries k)

theorem redundantIn_tableWith (t : String × String) {ks : List IndexKey} (hnodup : ks.Nodup) :
    redundantIn (tableWith entries t (ks.filter fun k => k.home = t)) =
      .ok ((repeatedIn (signatureIn entries) (byId (ks.filter fun k => k.home = t))).map
        (reportOf entries ks)) := by
  have hsorted : ((ks.filter fun k => k.home = t).map (indexOf entries)).mergeSort
      (fun i j => i.id ≤ j.id) = (byId (ks.filter fun k => k.home = t)).map (indexOf entries) := by
    rw [byId, List.map_mergeSort]
    exact fun j _ k _ => rfl
  rw [redundantIn, tableWith, hsorted,
    repeats_eq signature_indexOf _ _ (nodup_byId (hnodup.filter _))]
  congr 1
  apply List.map_congr_left
  intro k hk
  have hhome : k.home = t := by
    simpa using (List.mem_filter.mp (mem_byId.mp (List.mem_of_mem_filter hk))).2
  rw [reportOf, firstIn, hhome, ← hhome]
  rfl

/-- The reports of a catalog, one for each index found in one of its tables. -/
theorem findRedundant_tells {rows : List Row} (h : List.Forall₂ Tells rows entries) :
    ∃ ks ts, ks.Nodup ∧ (∀ k, k ∈ ks ↔ Mentioned entries k) ∧ ts.Nodup ∧
      (∀ t, t ∈ ts ↔ ∃ k ∈ ks, k.home = t) ∧
      findRedundant rows = .ok ((repeatedAmong entries ks ts).map (reportOf entries ks)) := by
  obtain ⟨ks, hks⟩ := exists_indexes entries
  obtain ⟨ts, hts⟩ := exists_tables entries ks
  refine ⟨ks, ts, hks.nodup, hks.mem_iff, hts.nodup, hts.mem_iff, ?_⟩
  have hindexes : entries.foldl addEntry [] = ks.map (indexOf entries) := hks.eq_map
  have hscan : (ts.map fun t => tableWith entries t (ks.filter fun k => k.home = t)).mapM
      redundantIn = .ok (ts.map fun t => (repeatedIn (signatureIn entries)
        (byId (ks.filter fun k => k.home = t))).map (reportOf entries ks)) := by
    rw [List.mapM_map]
    exact mapM_eq_map fun t _ => redundantIn_tableWith t hks.nodup
  rw [findRedundant, gather_tells h, hindexes]
  simp only [bind, Except.bind, hts.eq_map, hscan]
  rw [repeatedAmong, List.map_flatMap, List.flatMap_def]
  rfl

section

variable {ks : List IndexKey} {ts : List (String × String)}

theorem mem_table : k ∈ byId (ks.filter fun j => j.home = k.home) ↔ k ∈ ks := by
  simp [mem_byId]

theorem cited_firstIn (hc : Consistent entries) (hks : ∀ k, k ∈ ks ↔ Mentioned entries k)
    (hk : k ∈ ks) : Cited entries k (firstIn entries ks k) := by
  obtain ⟨hmem, hsame, hleast⟩ := firstLike_spec (s := signatureIn entries) (mem_table.mpr hk)
  obtain ⟨hfirst, hhome⟩ := List.mem_filter.mp hmem
  have hhome : (firstIn entries ks k).home = k.home := of_decide_eq_true hhome
  refine ⟨(hks _).mp hfirst,
    (signatureIn_eq_iff hc ((hks _).mp hfirst) ((hks k).mp hk) hhome).mp hsame, ?_⟩
  intro j hj halike
  exact hleast j (by simpa [hks] using ⟨hj, halike.1⟩)
    ((signatureIn_eq_iff hc hj ((hks k).mp hk) halike.1).mpr halike)

theorem mem_repeatedAmong (hts : ∀ t, t ∈ ts ↔ ∃ k ∈ ks, k.home = t) :
    k ∈ repeatedAmong entries ks ts ↔ k ∈ ks ∧ firstIn entries ks k ≠ k := by
  simp only [repeatedAmong, repeatedIn, List.mem_flatMap, List.mem_filter, mem_byId,
    decide_eq_true_eq]
  constructor
  · rintro ⟨t, -, ⟨hk, rfl⟩, hne⟩
    exact ⟨hk, hne⟩
  · rintro ⟨hk, hne⟩
    exact ⟨k.home, (hts _).mpr ⟨k, hk, rfl⟩, ⟨hk, rfl⟩, hne⟩

theorem home_of_mem_repeatedIn {s : IndexKey → Signature} {t : String × String}
    (hk : k ∈ repeatedIn s (byId (ks.filter fun j => j.home = t))) : k.home = t := by
  simpa using (List.mem_filter.mp (mem_byId.mp (List.mem_of_mem_filter hk))).2

theorem repeatedAmong_ordered (hks : ks.Nodup) (hts : ts.Nodup) :
    (repeatedAmong entries ks ts).Pairwise fun j k => j.home = k.home → j.id < k.id := by
  rw [repeatedAmong, List.pairwise_flatMap]
  constructor
  · intro t _
    have hsorted := (byId_sorted (ks.filter fun k => k.home = t)).and
      (nodup_byId (hks.filter fun k => k.home = t))
    refine (hsorted.filter _).imp ?_
    rintro j k ⟨hle, hne⟩ hhome
    have : j.id ≠ k.id := fun hid => hne (key_ext hhome hid)
    omega
  · refine hts.imp ?_
    intro t u hne j hj k hk hhome
    rw [home_of_mem_repeatedIn hj, home_of_mem_repeatedIn hk] at hhome
    exact absurd hhome hne

theorem areRepeats (hc : Consistent entries) (hks : ks.Nodup)
    (hmem : ∀ k, k ∈ ks ↔ Mentioned entries k) (hts : ts.Nodup)
    (hhomes : ∀ t, t ∈ ts ↔ ∃ k ∈ ks, k.home = t) :
    AreRepeats entries (repeatedAmong entries ks ts) := by
  have hordered : (repeatedAmong entries ks ts).Pairwise
      fun j k => j.home = k.home → j.id < k.id := repeatedAmong_ordered hks hts
  refine ⟨?_, fun k => ?_, hordered⟩
  · refine hordered.imp ?_
    rintro j k hless rfl
    exact Int.lt_irrefl _ (hless rfl)
  · rw [mem_repeatedAmong hhomes, hmem]
    apply and_congr_right
    intro hk
    have hcited := cited_firstIn hc hmem ((hmem k).mpr hk)
    constructor
    · intro hne
      have hle := hcited.least k hk (.refl k)
      have hid : (firstIn entries ks k).id ≠ k.id := fun hid => hne (key_ext hcited.alike.1 hid)
      exact ⟨_, hcited.mentioned, by omega, hcited.alike⟩
    · rintro ⟨j, hj, hless, halike⟩ heq
      have hle := hcited.least j hj halike
      rw [heq] at hle
      omega

theorem isNamed_indexOf (hk : Mentioned entries k) :
    ∃ name, IsNamed entries k name ∧ (indexOf entries k).name = .text name := by
  obtain ⟨e, he, hek⟩ := hk
  have hne : (entries.filter fun e => e.index = k) ≠ [] :=
    List.ne_nil_of_mem (List.mem_filter.mpr ⟨he, by simpa using hek⟩)
  obtain ⟨f, fs, hfs⟩ := List.exists_cons_of_ne_nil hne
  obtain ⟨hf, hfk⟩ := List.mem_filter.mp (hfs ▸ List.mem_cons_self : f ∈ _)
  exact ⟨f.indexName, ⟨f, hf, by simpa using hfk, rfl⟩, by simp [indexOf, existing, hfs]⟩

theorem dropStatement_text (schema table name : String) :
    dropStatement (.text schema) (.text table) (.text name) =
      "DROP INDEX [" ++ name ++ "] ON [" ++ schema ++ "].[" ++ table ++ "]" := rfl

theorem reports_reportOf (hc : Consistent entries) (hmem : ∀ k, k ∈ ks ↔ Mentioned entries k)
    (hk : k ∈ ks) : Reports entries k (reportOf entries ks k) := by
  have hcited := cited_firstIn hc hmem hk
  obtain ⟨name, hname, heq⟩ := isNamed_indexOf ((hmem k).mp hk)
  obtain ⟨firstName, hfirst, heq'⟩ := isNamed_indexOf hcited.mentioned
  refine ⟨name, _, firstName, hname, hcited, hfirst, ?_⟩
  rw [reportOf, redundantWith, heq, heq', dropStatement_text]
  rfl

end

theorem Reports.unique (hc : Consistent entries) {r r' : Redundant} (h : Reports entries k r)
    (h' : Reports entries k r') : r = r' := by
  have hnamed : ∀ {k : IndexKey} {name name' : String}, IsNamed entries k name →
      IsNamed entries k name' → name = name' := by
    rintro k name name' ⟨e, he, rfl, rfl⟩ ⟨f, hf, hfk, rfl⟩
    exact hc.named e he f hf hfk.symm
  obtain ⟨name, first, firstName, hname, hcited, hfirst, rfl⟩ := h
  obtain ⟨name', first', firstName', hname', hcited', hfirst', rfl⟩ := h'
  obtain rfl := hcited.unique hcited'
  rw [hnamed hname hname', hnamed hfirst hfirst']

section

variable {entries' : List Entry}

theorem mem_columnsOf_perm (h : entries'.Perm entries) {c : Column} :
    c ∈ columnsOf entries' k ↔ c ∈ columnsOf entries k := by
  simp [mem_columnsOf, h.mem_iff]

theorem mentioned_perm (h : entries'.Perm entries) :
    Mentioned entries' k ↔ Mentioned entries k := by
  simp [Mentioned, h.mem_iff]

theorem alike_perm (h : entries'.Perm entries) : Alike entries' j k ↔ Alike entries j k := by
  simp [Alike, mem_columnsOf_perm h]

theorem Distinct.perm {cs ds : List Column} (h : Distinct cs) (hperm : cs.Perm ds) : Distinct ds :=
  ⟨((hperm.filter _).map _).nodup_iff.mp h.ordinals, ((hperm.filter _).map _).nodup_iff.mp h.names⟩

theorem Consistent.perm (hc : Consistent entries) (h : entries'.Perm entries) :
    Consistent entries' := by
  refine ⟨?_, ?_, ?_⟩
  · intro e he f hf
    exact hc.named e (h.mem_iff.mp he) f (h.mem_iff.mp hf)
  · intro e he
    exact (hc.distinct e (h.mem_iff.mp he)).perm ((h.symm.filter _).map _)
  · intro e he f hf
    exact hc.spelled e (h.mem_iff.mp he) f (h.mem_iff.mp hf)

theorem reports_perm (h : entries'.Perm entries) {r : Redundant} (hr : Reports entries' k r) :
    Reports entries k r := by
  obtain ⟨name, first, firstName, ⟨e, he, hek⟩, hcited, ⟨f, hf, hfk⟩, rfl⟩ := hr
  refine ⟨name, first, firstName, ⟨e, h.mem_iff.mp he, hek⟩, ⟨?_, ?_, ?_⟩,
    ⟨f, h.mem_iff.mp hf, hfk⟩, rfl⟩
  · exact (mentioned_perm h).mp hcited.mentioned
  · exact (alike_perm h).mp hcited.alike
  · exact fun j hj halike => hcited.least j ((mentioned_perm h).mpr hj) ((alike_perm h).mpr halike)

theorem AreRepeats.perm {found found' : List IndexKey} (hfound : AreRepeats entries found)
    (hfound' : AreRepeats entries' found') (h : entries'.Perm entries) : found'.Perm found := by
  rw [List.perm_ext_iff_of_nodup hfound'.nodup hfound.nodup]
  intro k
  rw [hfound'.mem_iff, hfound.mem_iff]
  simp [mentioned_perm h, alike_perm h]

end

theorem exists_cited (hc : Consistent entries) (hk : Mentioned entries k) :
    ∃ first, Cited entries k first := by
  obtain ⟨ks, hks⟩ := exists_indexes entries
  exact ⟨_, cited_firstIn hc hks.mem_iff ((hks.mem_iff k).mpr hk)⟩

/-- The repeats of a consistent catalog are reported, and nothing else. -/
theorem exists_reports {rows : List Row} (h : List.Forall₂ Tells rows entries)
    (hc : Consistent entries) :
    ∃ found reports, findRedundant rows = .ok reports ∧ AreRepeats entries found ∧
      List.Forall₂ (Reports entries) found reports := by
  obtain ⟨ks, ts, hks, hmem, hts, hhomes, heq⟩ := findRedundant_tells h
  refine ⟨_, _, heq, areRepeats hc hks hmem hts hhomes, ?_⟩
  rw [List.forall₂_map_right_iff, List.forall₂_same]
  intro k hk
  exact reports_reportOf hc hmem ((mem_repeatedAmong hhomes).mp hk).1

theorem findRedundant_of_not_alike {rows : List Row} (h : List.Forall₂ Tells rows entries)
    (hc : Consistent entries)
    (hnone : ∀ j k, Mentioned entries j → Mentioned entries k → j.id < k.id →
      ¬ Alike entries j k) : findRedundant rows = .ok [] := by
  obtain ⟨found, reports, hfind, hrepeats, htold⟩ := exists_reports h hc
  have hempty : found = [] := by
    rw [List.eq_nil_iff_forall_not_mem]
    intro k hk
    obtain ⟨hmentioned, j, hj, hless, halike⟩ := (hrepeats.mem_iff k).mp hk
    exact hnone j k hj hmentioned hless halike
  rw [hempty, List.forall₂_nil_left_iff] at htold
  rw [hfind, htold]

theorem reports_of_perm {rows rows' : List Row} (h : List.Forall₂ Tells rows entries)
    (hc : Consistent entries) (hrows : rows'.Perm rows) {reports : List Redundant}
    (hreports : findRedundant rows = .ok reports) :
    ∃ reports', findRedundant rows' = .ok reports' ∧ reports'.Perm reports := by
  obtain ⟨entries', h', hentries⟩ := List.perm_comp_forall₂ hrows h
  obtain ⟨found, _, hfind, hrepeats, htold⟩ := exists_reports h hc
  obtain rfl := Except.ok.inj (hreports.symm.trans hfind)
  obtain ⟨found', reports', hfind', hrepeats', htold'⟩ := exists_reports h' (hc.perm hentries)
  refine ⟨reports', hfind', ?_⟩
  obtain ⟨other, hother, hperm⟩ :=
    List.perm_comp_forall₂ (hrepeats.perm hrepeats' hentries) htold
  have htold'' := htold'.imp fun k r => reports_perm hentries
  have hunique : Relator.RightUnique (Reports entries) := fun _ _ _ hr hr' => hr.unique hc hr'
  rwa [List.right_unique_forall₂' hunique htold'' hother]

def PlainIncluded (entries : List Entry) : Prop :=
  ∀ e ∈ entries, ∀ f ∈ entries, e.column.isIncluded = true → f.column.isIncluded = true →
    e.column.ordinal = f.column.ordinal ∧ e.column.isDescending = f.column.isDescending

instance : DecidablePred PlainIncluded := fun entries =>
  inferInstanceAs (Decidable (∀ e ∈ entries, ∀ f ∈ entries, e.column.isIncluded = true →
    f.column.isIncluded = true →
      e.column.ordinal = f.column.ordinal ∧ e.column.isDescending = f.column.isDescending))

structure AlikeByName (entries : List Entry) (j k : IndexKey) : Prop where
  home : j.home = k.home
  keys : ∀ c, c.isIncluded = false → (c ∈ columnsOf entries j ↔ c ∈ columnsOf entries k)
  included : ∀ name, (∃ c ∈ columnsOf entries j, c.isIncluded = true ∧ c.name = name) ↔
    ∃ c ∈ columnsOf entries k, c.isIncluded = true ∧ c.name = name

theorem Alike.byName (h : Alike entries j k) : AlikeByName entries j k := by
  refine ⟨h.1, fun c _ => h.2 c, fun name => ?_⟩
  simp only [h.2]

theorem alike_iff_byName (hplain : PlainIncluded entries) :
    Alike entries j k ↔ AlikeByName entries j k := by
  constructor
  · exact Alike.byName
  · intro h
    refine ⟨h.home, fun c => ?_⟩
    cases hincluded : c.isIncluded with
    | false => exact h.keys c hincluded
    | true =>
      -- An included column of the same name is the same column.
      have hsame : ∀ {i l : IndexKey}, c ∈ columnsOf entries i →
          (∃ d ∈ columnsOf entries l, d.isIncluded = true ∧ d.name = c.name) →
          c ∈ columnsOf entries l := by
        rintro i l hc ⟨d, hd, hdincluded, hname⟩
        obtain ⟨e, he, -, rfl⟩ := mem_columnsOf.mp hc
        obtain ⟨f, hf, -, rfl⟩ := mem_columnsOf.mp hd
        obtain ⟨hordinal, hdescending⟩ := hplain e he f hf hincluded hdincluded
        have heq : e.column = f.column := by
          cases he : e.column
          cases hf : f.column
          simp_all
        exact heq ▸ hd
      exact ⟨fun hc => hsame hc ((h.included _).mp ⟨c, hc, hincluded, rfl⟩),
        fun hc => hsame hc ((h.included _).mpr ⟨c, hc, hincluded, rfl⟩)⟩

/-- What is reported of a consistent catalog: each index that repeats one of a smaller id, once,
with the like index of least id as its reason. What is cited stays, and of indexes that are alike
exactly one stays. The order of the rows does not matter. -/
theorem findRedundant_exact {rows : List Row} (hrows : List.Forall₂ Tells rows entries)
    (hc : Consistent entries) :
    (∃ found reports, findRedundant rows = .ok reports ∧ AreRepeats entries found ∧
      List.Forall₂ (Reports entries) found reports ∧
      (∀ k first, Cited entries k first → first ∉ found) ∧
      (∀ k, Mentioned entries k → ∃! j, Mentioned entries j ∧ Alike entries j k ∧ j ∉ found) ∧
      ∀ rows', rows'.Perm rows →
        ∃ reports', findRedundant rows' = .ok reports' ∧ reports'.Perm reports) ∧
    (PlainIncluded entries → ∀ j k, Alike entries j k ↔ AlikeByName entries j k) := by
  obtain ⟨found, reports, hfind, hrepeats, htold⟩ := exists_reports hrows hc
  refine ⟨⟨found, reports, hfind, hrepeats, htold, ?_, ?_, ?_⟩, fun hplain j k =>
    alike_iff_byName hplain⟩
  · exact fun k first => hrepeats.cited_not_mem
  · intro k hk
    obtain ⟨first, hcited⟩ := exists_cited hc hk
    exact hrepeats.existsUnique_kept hcited
  · exact fun rows' hperm => reports_of_perm hrows hc hperm hfind

def orderEntries : List Entry :=
  let orders (id : Int) : IndexKey := ⟨"dbo", "Orders", id⟩
  [⟨orders 5, "IX_Customer_Copy", ⟨"Total", 0, true, false⟩⟩,
    ⟨orders 5, "IX_Customer_Copy", ⟨"Placed", 2, false, false⟩⟩,
    ⟨orders 2, "IX_Customer", ⟨"Customer", 1, false, false⟩⟩,
    ⟨orders 2, "IX_Customer", ⟨"Placed", 2, false, false⟩⟩,
    ⟨orders 3, "IX_Placed", ⟨"Customer", 2, false, false⟩⟩,
    ⟨orders 3, "IX_Placed", ⟨"Placed", 1, false, false⟩⟩,
    ⟨orders 2, "IX_Customer", ⟨"Total", 0, true, false⟩⟩,
    ⟨orders 3, "IX_Placed", ⟨"Total", 0, true, false⟩⟩,
    ⟨orders 4, "IX_Latest", ⟨"Customer", 1, false, false⟩⟩,
    ⟨orders 4, "IX_Latest", ⟨"Placed", 2, false, true⟩⟩,
    ⟨orders 5, "IX_Customer_Copy", ⟨"Customer", 1, false, false⟩⟩]

theorem copied_index_is_reported :
    List.Forall₂ Tells (orderEntries.map rowOf) orderEntries ∧ Consistent orderEntries ∧
      PlainIncluded orderEntries ∧
      ∃ found reports, findRedundant (orderEntries.map rowOf) = .ok reports ∧
        List.Forall₂ (Reports orderEntries) found reports ∧
        ⟨"dbo", "Orders", 5⟩ ∈ found ∧ ⟨"dbo", "Orders", 2⟩ ∉ found := by
  have hrows := tells_rows orderEntries
  have hc : Consistent orderEntries := by decide +kernel
  have hplain : PlainIncluded orderEntries := by decide +kernel
  obtain ⟨⟨found, reports, hfind, hrepeats, htold, hcited, -⟩, -⟩ := findRedundant_exact hrows hc
  have halike : Alike orderEntries ⟨"dbo", "Orders", 2⟩ ⟨"dbo", "Orders", 5⟩ := by
    have hperm : (columnsOf orderEntries ⟨"dbo", "Orders", 2⟩).Perm
        (columnsOf orderEntries ⟨"dbo", "Orders", 5⟩) := by decide +kernel
    exact ⟨rfl, fun c => hperm.mem_iff⟩
  have hmentioned : Mentioned orderEntries ⟨"dbo", "Orders", 2⟩ ∧
      Mentioned orderEntries ⟨"dbo", "Orders", 5⟩ := by decide +kernel
  have hnone : ∀ e ∈ orderEntries, ¬ e.index.id < 2 := by decide +kernel
  refine ⟨hrows, hc, hplain, found, reports, hfind, htold, ?_, ?_⟩
  · exact (hrepeats.mem_iff _).mpr ⟨hmentioned.2, _, hmentioned.1, by decide, halike⟩
  · intro hmem
    obtain ⟨-, j, ⟨e, he, rfl⟩, hless, -⟩ := (hrepeats.mem_iff _).mp hmem
    exact hnone e he hless

/-- Two indexes with one key column and one included column of the same names. The ordinals of the
included ones differ, and nothing is reported. -/
theorem included_ordinals_count :
    let entries : List Entry :=
      [⟨⟨"dbo", "Orders", 2⟩, "IX_A", ⟨"Customer", 1, false, false⟩⟩,
        ⟨⟨"dbo", "Orders", 2⟩, "IX_A", ⟨"Total", 0, true, false⟩⟩,
        ⟨⟨"dbo", "Orders", 3⟩, "IX_B", ⟨"Customer", 1, false, false⟩⟩,
        ⟨⟨"dbo", "Orders", 3⟩, "IX_B", ⟨"Total", 2, true, false⟩⟩]
    List.Forall₂ Tells (entries.map rowOf) entries ∧ Consistent entries ∧
      AlikeByName entries ⟨"dbo", "Orders", 2⟩ ⟨"dbo", "Orders", 3⟩ ∧
      findRedundant (entries.map rowOf) = .ok [] := by
  intro entries
  have hsecond : columnsOf entries ⟨"dbo", "Orders", 2⟩ =
      [⟨"Customer", 1, false, false⟩, ⟨"Total", 0, true, false⟩] := by decide +kernel
  have hthird : columnsOf entries ⟨"dbo", "Orders", 3⟩ =
      [⟨"Customer", 1, false, false⟩, ⟨"Total", 2, true, false⟩] := by decide +kernel
  have hc : Consistent entries := by decide +kernel
  have hnone : ∀ j k, Mentioned entries j → Mentioned entries k → j.id < k.id →
      ¬ Alike entries j k := by
    have hids : ∀ e ∈ entries, e.index = ⟨"dbo", "Orders", 2⟩ ∨ e.index = ⟨"dbo", "Orders", 3⟩ := by
      decide +kernel
    rintro j k ⟨e, he, rfl⟩ ⟨f, hf, rfl⟩ hless halike
    rcases hids e he with hj | hj <;> rcases hids f hf with hk | hk <;> rw [hj, hk] at hless halike
    · simp at hless
    · simpa [hsecond, hthird] using halike.2 ⟨"Total", 0, true, false⟩
    · simp at hless
    · simp at hless
  refine ⟨tells_rows entries, hc, ⟨rfl, ?_, ?_⟩,
    findRedundant_of_not_alike (tells_rows entries) hc hnone⟩
  · rw [hsecond, hthird]
    rintro ⟨name, ordinal, isIncluded, isDescending⟩ hkey
    simp at hkey
    simp [hkey]
  · rw [hsecond, hthird]
    simp

end QueryTuning.Index
