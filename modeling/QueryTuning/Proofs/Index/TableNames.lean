import QueryTuning.Proofs.Analysis.Steps
import QueryTuning.Proofs.Index.Duplicates
import QueryTuning.Proofs.Session.Evaluation
import QueryTuning.Proofs.Session.Mandatory

/-!
# Tables under several names

A query may name one table in several ways. Names are compared as texts, each of them is looked up,
and the server compares names in its own way; so an index may be reported under every spelling of
its table.
-/

set_option autoImplicit false

namespace QueryTuning

variable {σ ν κ : Type}

theorem Query.nodup_tablesOf (query : String) : (tablesOf query).Nodup := by
  unfold tablesOf tableNames
  apply List.Nodup.map fun _ _ h => String.ofList_inj.mp h
  refine List.foldlRecOn _ _ List.nodup_nil ?_
  intro names hnames name _
  split
  · exact hnames
  next hnew =>
    refine List.nodup_append.mpr ⟨hnames, List.nodup_singleton _, ?_⟩
    rintro other hother _ hname rfl
    exact hnew (List.mem_singleton.mp hname ▸ hother)

namespace Index

def Redundant.key (r : Redundant) : Cell × Cell × Cell := (r.schema, r.table, r.name)

theorem key_withUsage {usage : List Row} {r r' : Redundant} (h : withUsage usage r = .ok r') :
    r'.key = r.key := by
  obtain ⟨_, _, _, rfl⟩ := figures_of_withUsage h
  rfl

section

variable {limit : TimeLimit} {t : Trace ν}

theorem key_lookUpUsage {r r' : Redundant} (h : Task.Follows (lookUpUsage limit r) t (.ok r')) :
    r'.key = r.key := by
  obtain ⟨_, _, rows, -, -, hvalue⟩ := Task.follows_ok_bind h
  obtain ⟨-, hr⟩ := Task.follows_ofValue.mp hvalue
  cases husage : withUsage (rows.getD []) r with
  | ok r'' =>
    rw [husage] at hr
    cases hr
    exact key_withUsage husage
  | error fault =>
    rw [husage] at hr
    cases hr

theorem keys_lookUpUsages {rs rs' : List Redundant}
    (h : Task.Follows (lookUpUsages limit rs) t (.ok rs')) :
    rs'.map Redundant.key = rs.map Redundant.key := by
  induction rs generalizing t rs' with
  | nil =>
    obtain ⟨-, hr⟩ := Task.follows_pure.mp h
    cases hr
    rfl
  | cons r rs ih =>
    obtain ⟨_, _, r', -, hr, hrest⟩ := Task.follows_ok_bind h
    obtain ⟨_, _, others, -, hothers, hdone⟩ := Task.follows_ok_bind hrest
    obtain ⟨-, hresult⟩ := Task.follows_pure.mp hdone
    cases hresult
    rw [List.map_cons, List.map_cons, key_lookUpUsage hr, ih hothers]

def IsFoundIn (t : Trace ν) (table : String) (reports : List Redundant) : Prop :=
  ∃ rows, ⟨.indexCatalog, catalogCall table, .ok rows⟩ ∈ t.exchanges ∧
    findRedundant rows = .ok reports

theorem isFoundIn_of_redundantOf {table : String} {found : List Redundant}
    (h : Task.Follows (redundantOf table limit) t (.ok found)) :
    ∃ reports, IsFoundIn t table reports ∧ found.map Redundant.key = reports.map Redundant.key := by
  obtain ⟨t₁, _, rows, rfl, hread, hrest⟩ := Task.follows_ok_bind h
  obtain ⟨_, _, reports, rfl, hvalue, husage⟩ := Task.follows_ok_bind hrest
  obtain ⟨rfl, hreports⟩ := Task.follows_ofValue.mp hvalue
  have hfind : findRedundant rows = .ok reports := by
    cases hf : findRedundant rows with
    | ok reports' =>
      rw [hf] at hreports
      cases hreports
      rfl
    | error fault =>
      rw [hf] at hreports
      cases hreports
  have hmem : ⟨.indexCatalog, catalogCall table, .ok rows⟩ ∈ t₁.exchanges := by
    cases hl : limit.isSpent with
    | true => cases ((Task.follows_mandatory_spent hl).mp hread).2
    | false =>
      obtain ⟨outcome, rfl, houtcome⟩ := (Task.follows_mandatory hl).mp hread
      cases outcome with
      | ok answer =>
        cases houtcome
        simp
      | error failure => cases houtcome
  exact ⟨reports, ⟨rows, by simp [hmem], hfind⟩, keys_lookUpUsages husage⟩

theorem IsFoundIn.mono {u : Trace ν} {table : String} {reports : List Redundant}
    (h : IsFoundIn t table reports) (hsub : t.exchanges ⊆ u.exchanges) :
    IsFoundIn u table reports := by
  obtain ⟨rows, hmem, hfind⟩ := h
  exact ⟨rows, hsub hmem, hfind⟩

/-- Each name has a reply of its own, and what was found in the replies is put together. -/
theorem isFoundIn_of_redundantOfAll {tables : List String} {found : List Redundant}
    (h : Task.Follows (redundantOfAll limit tables) t (.ok found)) :
    ∃ parts, List.Forall₂ (IsFoundIn t) tables parts ∧
      found.map Redundant.key = (parts.map (List.map Redundant.key)).flatten := by
  induction tables generalizing t found with
  | nil =>
    obtain ⟨-, hr⟩ := Task.follows_pure.mp h
    cases hr
    exact ⟨[], .nil, rfl⟩
  | cons table tables ih =>
    obtain ⟨t₁, _, first, rfl, hfirst, hrest⟩ := Task.follows_ok_bind h
    obtain ⟨t₂, t₃, others, rfl, hothers, hdone⟩ := Task.follows_ok_bind hrest
    obtain ⟨rfl, hresult⟩ := Task.follows_pure.mp hdone
    cases hresult
    obtain ⟨part, hpart, hkeys⟩ := isFoundIn_of_redundantOf hfirst
    obtain ⟨parts, hparts, hkeys'⟩ := ih hothers
    refine ⟨part :: parts, .cons (hpart.mono (by simp)) ?_, ?_⟩
    · exact hparts.imp fun table reports hfound => hfound.mono (by simp)
    · rw [List.map_append, hkeys, hkeys', List.map_cons, List.flatten_cons]

end

variable {fold : String → κ} {catalog : List Entry}

section

variable [DecidableEq κ]

def entriesFor (fold : String → κ) (catalog : List Entry) (table : String) : List Entry :=
  catalog.filter fun e => fold e.index.table = fold table

/-- A server that replies to a catalog read for a name with the rows of the tables whose name is
the same once it is folded, in some order. -/
def KnowsIndexes (server : Server σ) (fold : String → κ)
    (catalog : List Entry) : Prop :=
  ∀ st table rows, (server.respond st (catalogCall table)).1.outcome = .ok rows →
    ∃ entries, entries.Perm (entriesFor fold catalog table) ∧ List.Forall₂ Tells rows entries

variable {table : String} {j k : IndexKey}

theorem mem_entriesFor {e : Entry} :
    e ∈ entriesFor fold catalog table ↔ e ∈ catalog ∧ fold e.index.table = fold table := by
  simp [entriesFor]

theorem columnsOf_entriesFor (h : fold k.table = fold table) :
    columnsOf (entriesFor fold catalog table) k = columnsOf catalog k := by
  unfold columnsOf entriesFor
  rw [List.filter_filter]
  congr 1
  apply List.filter_congr
  intro e _
  by_cases hk : e.index = k <;> simp [hk, h]

theorem mentioned_entriesFor (h : fold k.table = fold table) :
    Mentioned (entriesFor fold catalog table) k ↔ Mentioned catalog k := by
  constructor
  · rintro ⟨e, he, rfl⟩
    exact ⟨e, (mem_entriesFor.mp he).1, rfl⟩
  · rintro ⟨e, he, rfl⟩
    exact ⟨e, mem_entriesFor.mpr ⟨he, h⟩, rfl⟩

theorem table_of_mentioned (h : Mentioned (entriesFor fold catalog table) k) :
    fold k.table = fold table := by
  obtain ⟨e, he, rfl⟩ := h
  exact (mem_entriesFor.mp he).2

theorem alike_entriesFor (hj : fold j.table = fold table) (hk : fold k.table = fold table) :
    Alike (entriesFor fold catalog table) j k ↔ Alike catalog j k := by
  rw [Alike, Alike, columnsOf_entriesFor hj, columnsOf_entriesFor hk]

theorem Consistent.entriesFor (hc : Consistent catalog) :
    Consistent (entriesFor fold catalog table) := by
  refine ⟨fun e he f hf => ?_, fun e he => ?_, fun e he f hf => ?_⟩
  · exact hc.named e (mem_entriesFor.mp he).1 f (mem_entriesFor.mp hf).1
  · obtain ⟨he', htable⟩ := mem_entriesFor.mp he
    rw [columnsOf_entriesFor htable]
    exact hc.distinct e he'
  · exact hc.spelled e (mem_entriesFor.mp he).1 f (mem_entriesFor.mp hf).1

end

def NamesIndexes (catalog : List Entry) : Prop :=
  ∀ e ∈ catalog, ∀ f ∈ catalog,
    e.index.home = f.index.home → e.indexName = f.indexName → e.index = f.index

def IsRepeat (fold : String → κ) (catalog : List Entry) (table : String) (k : IndexKey) : Prop :=
  fold k.table = fold table ∧ Mentioned catalog k ∧
    ∃ j, Mentioned catalog j ∧ j.id < k.id ∧ Alike catalog j k

def nameOf (entries : List Entry) (k : IndexKey) : String :=
  ((entries.filter fun e => e.index = k).head?.map Entry.indexName).getD ""

def keyOf (entries : List Entry) (k : IndexKey) : Cell × Cell × Cell :=
  (.text k.schema, .text k.table, .text (nameOf entries k))

theorem isNamed_nameOf {entries : List Entry} {k : IndexKey} (h : Mentioned entries k) :
    IsNamed entries k (nameOf entries k) := by
  obtain ⟨name, hname, heq⟩ := isNamed_indexOf h
  obtain rfl : nameOf entries k = name := Cell.text.inj heq
  exact hname

/-- Reports of different indexes are told apart if no two indexes of a table share a name. -/
theorem keyOf_inj {entries : List Entry} {j k : IndexKey} (hids : NamesIndexes entries)
    (hj : Mentioned entries j) (hk : Mentioned entries k)
    (h : keyOf entries j = keyOf entries k) : j = k := by
  obtain ⟨e, he, rfl, hname⟩ := isNamed_nameOf hj
  obtain ⟨f, hf, rfl, hname'⟩ := isNamed_nameOf hk
  simp only [keyOf, Prod.mk.injEq, Cell.text.injEq] at h
  obtain ⟨hschema, htable, hsame⟩ := h
  have hhome : e.index.home = f.index.home := Prod.ext hschema htable
  exact hids e he f hf hhome (by rw [hname, hname', hsame])

/-- The indexes that are found in a reply, and the reports of them. -/
theorem exists_found {rows : List Row} {entries : List Entry}
    (h : List.Forall₂ Tells rows entries) :
    ∃ found, found.Nodup ∧ (∀ k ∈ found, Mentioned entries k) ∧
      (Consistent entries → AreRepeats entries found) ∧
      ∃ reports, findRedundant rows = .ok reports ∧
        reports.map Redundant.key = found.map (keyOf entries) := by
  obtain ⟨ks, ts, hks, hmem, hts, hhomes, heq⟩ := findRedundant_tells h
  refine ⟨repeatedAmong entries ks ts, ?_, ?_, fun hc => areRepeats hc hks hmem hts hhomes,
    _, heq, ?_⟩
  · refine (repeatedAmong_ordered hks hts).imp ?_
    rintro j k hless rfl
    exact Int.lt_irrefl _ (hless rfl)
  · intro k hk
    exact (hmem k).mp ((mem_repeatedAmong hhomes).mp hk).1
  · rw [List.map_map]
    rfl

def Apart (fold : String → κ) (catalog : List Entry) (t u : String) : Prop :=
  fold t = fold u → ∀ k, ¬ IsRepeat fold catalog t k

theorem Apart.symm {t u : String} (h : Apart fold catalog t u) : Apart fold catalog u t :=
  fun heq k hk => h heq.symm k ⟨hk.1.trans heq, hk.2⟩

/-- What tells the reports on a table apart: no two are the same, and they are those of the repeats
in the catalog if this is consistent. -/
structure IsPart (fold : String → κ) (catalog : List Entry) (table : String)
    (keys : List (Cell × Cell × Cell)) : Prop where
  nodup : keys.Nodup
  of_table : ∀ key ∈ keys, ∃ schema table' name,
    key = (schema, .text table', name) ∧ fold table' = fold table
  mem_iff : Consistent catalog →
    ∀ key, key ∈ keys ↔ ∃ k, IsRepeat fold catalog table k ∧ keyOf catalog k = key

section

variable [DecidableEq κ] {table : String} {entries : List Entry}
  (hperm : entries.Perm (entriesFor fold catalog table))

include hperm

/-- A reply with all entries for a name tells of the repeats of its tables. -/
theorem isRepeat_iff_of_perm (k : IndexKey) :
    (Mentioned entries k ∧ ∃ j, Mentioned entries j ∧ j.id < k.id ∧ Alike entries j k) ↔
      IsRepeat fold catalog table k := by
  rw [mentioned_perm hperm]
  constructor
  · rintro ⟨hk, j, hj, hless, halike⟩
    rw [mentioned_perm hperm] at hj
    rw [alike_perm hperm] at halike
    have htable := table_of_mentioned hk
    have htable' := table_of_mentioned hj
    exact ⟨htable, (mentioned_entriesFor htable).mp hk, j, (mentioned_entriesFor htable').mp hj,
      hless, (alike_entriesFor htable' htable).mp halike⟩
  · rintro ⟨htable, hk, j, hj, hless, halike⟩
    have hsame : j.table = k.table := congrArg Prod.snd halike.1
    have htable' : fold j.table = fold table := by rw [hsame, htable]
    refine ⟨(mentioned_entriesFor htable).mpr hk, j, ?_, hless, ?_⟩
    · exact (mentioned_perm hperm).mpr ((mentioned_entriesFor htable').mpr hj)
    · exact (alike_perm hperm).mpr ((alike_entriesFor htable' htable).mpr halike)

/-- An index has the name in a reply that it has in the catalog. -/
theorem keyOf_of_perm (hc : Consistent catalog) {k : IndexKey} (hk : Mentioned entries k) :
    keyOf entries k = keyOf catalog k := by
  obtain ⟨e, he, rfl, hname⟩ := isNamed_nameOf hk
  have hcatalog : e ∈ catalog := (mem_entriesFor.mp (hperm.mem_iff.mp he)).1
  obtain ⟨f, hf, hindex, hname'⟩ := isNamed_nameOf ⟨e, hcatalog, rfl⟩
  rw [keyOf, keyOf, ← hname, ← hname', hc.named e hcatalog f hf hindex.symm]

theorem isPart_of_reply (hids : NamesIndexes catalog) {rows : List Row} {reports : List Redundant}
    (hrows : List.Forall₂ Tells rows entries) (hfind : findRedundant rows = .ok reports) :
    IsPart fold catalog table (reports.map Redundant.key) := by
  obtain ⟨found, hnodup, hmentioned, hrepeats, _, hfind', hkeys⟩ := exists_found hrows
  obtain rfl := Except.ok.inj (hfind.symm.trans hfind')
  have hsub : ∀ e ∈ entries, e ∈ catalog ∧ fold e.index.table = fold table := fun e he =>
    mem_entriesFor.mp (hperm.mem_iff.mp he)
  have hids' : NamesIndexes entries := fun e he f hf => hids e (hsub e he).1 f (hsub f hf).1
  rw [hkeys]
  refine ⟨?_, ?_, fun hc key => ?_⟩
  · exact hnodup.map_on fun j hj k hk => keyOf_inj hids' (hmentioned j hj) (hmentioned k hk)
  · intro key hkey
    obtain ⟨k, hk, rfl⟩ := List.mem_map.mp hkey
    obtain ⟨e, he, rfl⟩ := hmentioned k hk
    exact ⟨_, _, _, rfl, (hsub e he).2⟩
  · have hrepeat : ∀ k, k ∈ found ↔ IsRepeat fold catalog table k := fun k =>
      ((hrepeats (hc.entriesFor.perm hperm)).mem_iff k).trans (isRepeat_iff_of_perm hperm k)
    have hname : ∀ k ∈ found, keyOf entries k = keyOf catalog k := fun k hk =>
      keyOf_of_perm hperm hc (hmentioned k hk)
    rw [List.mem_map]
    constructor
    · rintro ⟨k, hk, rfl⟩
      exact ⟨k, (hrepeat k).mp hk, (hname k hk).symm⟩
    · rintro ⟨k, hk, rfl⟩
      exact ⟨k, (hrepeat k).mpr hk, hname k ((hrepeat k).mpr hk)⟩

end

namespace IsPart

variable {t u : String} {keys keys' : List (Cell × Cell × Cell)}

theorem disjoint_of_ne (h : IsPart fold catalog t keys) (h' : IsPart fold catalog u keys')
    (hne : fold t ≠ fold u) : keys.Disjoint keys' := by
  intro key hkey hkey'
  obtain ⟨_, table, _, rfl, htable⟩ := h.of_table key hkey
  obtain ⟨_, table', _, heq, htable'⟩ := h'.of_table _ hkey'
  simp only [Prod.mk.injEq, Cell.text.injEq] at heq
  rw [← htable, heq.2.1, htable'] at hne
  exact hne rfl

/-- The reports on two names of one table are the same. -/
theorem disjoint_iff (hc : Consistent catalog) (h : IsPart fold catalog t keys)
    (h' : IsPart fold catalog u keys') :
    keys.Disjoint keys' ↔ Apart fold catalog t u := by
  constructor
  · intro hdisjoint heq k hk
    have hk' : IsRepeat fold catalog u k := ⟨hk.1.trans heq, hk.2⟩
    exact hdisjoint ((h.mem_iff hc _).mpr ⟨k, hk, rfl⟩) ((h'.mem_iff hc _).mpr ⟨k, hk', rfl⟩)
  · intro hnone
    by_cases heq : fold t = fold u
    · intro key hkey _
      obtain ⟨k, hk, -⟩ := (h.mem_iff hc key).mp hkey
      exact hnone heq k hk
    · exact h.disjoint_of_ne h' heq

end IsPart

section

variable {names : List String} {parts : List (List (Cell × Cell × Cell))}

theorem nodup_parts_iff_pairwise (h : List.Forall₂ (IsPart fold catalog) names parts) :
    parts.flatten.Nodup ↔ parts.Pairwise List.Disjoint := by
  rw [List.nodup_flatten, and_iff_right]
  induction h with
  | nil => simp
  | cons hpart _ ih => exact List.forall_mem_cons.mpr ⟨hpart.nodup, ih⟩

theorem nodup_parts (h : List.Forall₂ (IsPart fold catalog) names parts) (hnames : names.Nodup)
    (hone : ∀ t ∈ names, ∀ u ∈ names, fold t = fold u → t = u) : parts.flatten.Nodup := by
  have hne : names.Pairwise fun t u => fold t ≠ fold u :=
    hnames.imp_of_mem fun ht hu hne heq => hne (hone _ ht _ hu heq)
  rw [nodup_parts_iff_pairwise h]
  exact pairwise_of_forall₂ (fun hpart hpart' => hpart.disjoint_of_ne hpart') h hne

theorem nodup_parts_iff (hc : Consistent catalog)
    (h : List.Forall₂ (IsPart fold catalog) names parts) (hnames : names.Nodup) :
    parts.flatten.Nodup ↔ ∀ t ∈ names, ∀ u ∈ names, fold t = fold u →
      ∀ k, IsRepeat fold catalog t k → t = u := by
  have hpairwise : parts.Pairwise List.Disjoint ↔ names.Pairwise (Apart fold catalog) := by
    constructor
    · exact pairwise_of_forall₂ (R := flip (IsPart fold catalog))
        (fun hpart hpart' => (hpart.disjoint_iff hc hpart').mp) (List.Forall₂.flip h)
    · exact pairwise_of_forall₂ (fun hpart hpart' => (hpart.disjoint_iff hc hpart').mpr) h
  rw [nodup_parts_iff_pairwise h, hpairwise]
  constructor
  · intro hapart t ht u hu heq k hk
    have hsymm : Std.Symm (Apart fold catalog) := ⟨fun _ _ => Apart.symm⟩
    by_contra hne
    exact hapart.forall ht hu hne heq k hk
  · intro hone
    exact hnames.imp_of_mem fun ht hu hne heq k hk => hne (hone _ ht _ hu heq k hk)

end

variable [DecidableEq κ]

theorem exists_parts {s : Surroundings σ ν} {w : World σ} {query : String} {limit : TimeLimit}
    {found : List Redundant} (hserver : KnowsIndexes s.server fold catalog)
    (hids : NamesIndexes catalog)
    (h : (Task.runIn s (redundantFor query limit) w).result = .ok found) :
    ∃ parts, List.Forall₂ (IsPart fold catalog) (Query.tablesOf query) parts ∧
      found.map Redundant.key = parts.flatten := by
  have hfollows := Task.runIn_follows s (redundantFor query limit) w
  rw [h, redundantFor_eq] at hfollows
  obtain ⟨t₁, t₂, _, htrace, -, hfound⟩ := Task.follows_ok_bind hfollows
  obtain ⟨parts, hparts, hkeys⟩ := isFoundIn_of_redundantOfAll hfound
  refine ⟨_, ?_, hkeys⟩
  rw [List.forall₂_map_right_iff]
  refine hparts.imp fun table reports hreply => ?_
  obtain ⟨rows, hmem, hfind⟩ := hreply
  have hmem' : ⟨.indexCatalog, catalogCall table, .ok rows⟩ ∈
      (Task.traceIn s (redundantFor query limit) w).exchanges := by
    rw [redundantFor_eq, htrace, Trace.exchanges_append]
    exact List.mem_append_right _ hmem
  rcases Interaction.outcome_of_mem_trace hmem' with ⟨st, hst⟩ | hexpired | hcancelled
  · obtain ⟨entries, hperm, hrows⟩ := hserver st table rows hst.symm
    exact isPart_of_reply hperm hids hrows hfind
  · cases hexpired
  · cases hcancelled

/-- What is reported for a query. If its names for a table are one name each, no index is reported
twice; and if the catalog is consistent, one is reported twice exactly if two of the names are for
one table that has a repeat. -/
theorem reported_once_iff {s : Surroundings σ ν} {w : World σ} {query : String} {limit : TimeLimit}
    {found : List Redundant} (hserver : KnowsIndexes s.server fold catalog)
    (hids : NamesIndexes catalog)
    (h : (Task.runIn s (redundantFor query limit) w).result = .ok found) :
    ((∀ t ∈ Query.tablesOf query, ∀ u ∈ Query.tablesOf query, fold t = fold u → t = u) →
        (found.map Redundant.key).Nodup) ∧
      (Consistent catalog → ((found.map Redundant.key).Nodup ↔
        ∀ t ∈ Query.tablesOf query, ∀ u ∈ Query.tablesOf query, fold t = fold u →
          ∀ k, IsRepeat fold catalog t k → t = u)) := by
  obtain ⟨parts, hparts, hkeys⟩ := exists_parts hserver hids h
  have hnames := Query.nodup_tablesOf query
  rw [hkeys]
  exact ⟨nodup_parts hparts hnames, fun hc => nodup_parts_iff hc hparts hnames⟩

def catalogReply (catalog : List Entry) : (c : Call) → c.Answer
  | .fetchAll _ [.text table] => (entriesFor lowerCase catalog table).map rowOf
  | c => c.emptyAnswer

theorem catalogReply_catalogCall (catalog : List Entry) (table : String) :
    catalogReply catalog (catalogCall table) = (entriesFor lowerCase catalog table).map rowOf :=
  rfl

theorem catalogReply_usageCall (catalog : List Entry) (r : Redundant) :
    catalogReply catalog (usageCall r) = [] := by
  unfold usageCall
  cases r.schema <;> rfl

theorem knowsIndexes_catalogReply (catalog : List Entry) :
    KnowsIndexes (.constant (catalogReply catalog)) lowerCase catalog := by
  intro st table rows h
  obtain rfl := Except.ok.inj h
  rw [catalogReply_catalogCall]
  exact ⟨_, .refl _, tells_rows _⟩

section

variable {answers : Answers ν} {limit : TimeLimit}
  (h : ∀ c, answers.outcome c limit = .ok (catalogReply catalog c)) (n : Nat)

include h

theorem gives_lookUpUsages (rs : List Redundant) :
    Task.Gives answers (lookUpUsages limit rs) n rs n := by
  induction rs with
  | nil => exact Task.gives_pure.mpr ⟨rfl, rfl⟩
  | cons r rs ih =>
    have hone : Task.Gives answers (lookUpUsage limit r) n r n :=
      (Task.gives_bestEffort (h (usageCall r))).bind
        (Task.gives_ofValue (by rw [catalogReply_usageCall]; rfl))
    exact hone.bind (ih.bind (Task.gives_pure.mpr ⟨rfl, rfl⟩))

theorem gives_redundantOfAll (tables : List String) :
    ∃ found, Task.Gives answers (redundantOfAll limit tables) n found n := by
  induction tables with
  | nil => exact ⟨[], Task.gives_pure.mpr ⟨rfl, rfl⟩⟩
  | cons table tables ih =>
    obtain ⟨_, -, -, -, reports, hfind, -⟩ :=
      exists_found (tells_rows (entriesFor lowerCase catalog table))
    rw [← catalogReply_catalogCall] at hfind
    have hfirst : Task.Gives answers (redundantOf table limit) n reports n :=
      (Task.gives_mandatory (h _)).bind
        ((Task.gives_ofValue hfind).bind (gives_lookUpUsages h n reports))
    obtain ⟨others, hothers⟩ := ih
    exact ⟨_, hfirst.bind (hothers.bind (Task.gives_pure.mpr ⟨rfl, rfl⟩))⟩

end

/-- Such a server lets every search come to an end. -/
theorem exists_result (catalog : List Entry) (clock : Nat → ν) (query : String) (limit : TimeLimit)
    (hl : limit.isSpent = false) (w : World Unit) (hw : w.cancelAt = none) :
    ∃ found, (Task.runIn ⟨.constant (catalogReply catalog), clock⟩ (redundantFor query limit)
      w).result = .ok found := by
  let s : Surroundings Unit ν := ⟨.constant (catalogReply catalog), clock⟩
  have houtcome : ∀ c, (s.answers w).outcome c limit = .ok (catalogReply catalog c) :=
    fun c => Server.outcomeOf_constant (catalogReply catalog) w c hl
  have hremark : Task.Gives (s.answers w) (remarkIfNoTables (Query.tablesOf query))
      w.readings () w.readings := by
    unfold remarkIfNoTables
    split <;> rfl
  obtain ⟨found, hfound⟩ := gives_redundantOfAll houtcome w.readings (Query.tablesOf query)
  have hall : Task.Gives (s.answers w) (redundantFor query limit) w.readings found w.readings := by
    rw [redundantFor_eq]
    exact hremark.bind hfound
  exact ⟨found, Task.runIn_of_gives (Server.isForgetful_constant _) hw hall⟩

def twoTables : List Entry :=
  [⟨⟨"dbo", "Orders", 1⟩, "IX_A", ⟨"Day", 1, false, false⟩⟩,
    ⟨⟨"dbo", "Orders", 2⟩, "IX_B", ⟨"Day", 1, false, false⟩⟩,
    ⟨⟨"dbo", "Days", 1⟩, "IX_A", ⟨"Day", 1, false, false⟩⟩]

theorem namesIndexes_twoTables : NamesIndexes twoTables := by
  unfold NamesIndexes
  decide +kernel

theorem isRepeat_twoTables : IsRepeat lowerCase twoTables "Orders" ⟨"dbo", "Orders", 2⟩ := by
  have hcolumns : columnsOf twoTables ⟨"dbo", "Orders", 1⟩ =
      columnsOf twoTables ⟨"dbo", "Orders", 2⟩ := by decide +kernel
  refine ⟨rfl, by decide +kernel, ⟨"dbo", "Orders", 1⟩, by decide +kernel, by decide, rfl, ?_⟩
  rw [hcolumns]
  exact fun c => Iff.rfl

/-- Another spelling of a table without repeats does no harm. -/
theorem respelled_table_without_repeats :
    let query := "SELECT * FROM Orders JOIN Days ON 1 = 1 JOIN days ON 1 = 1"
    let s : Surroundings Unit Binary64 := ⟨.constant (catalogReply twoTables), fun _ => .zero⟩
    KnowsIndexes s.server lowerCase twoTables ∧ NamesIndexes twoTables ∧ Consistent twoTables ∧
      Query.tablesOf query = ["Orders", "Days", "days"] ∧
      ∃ found, (Task.runIn s (redundantFor query none) (World.start () 0 none)).result = .ok found ∧
        (found.map Redundant.key).Nodup := by
  intro query s
  have hserver : KnowsIndexes s.server lowerCase twoTables := knowsIndexes_catalogReply _
  have hc : Consistent twoTables := by decide +kernel
  have htables : Query.tablesOf query = ["Orders", "Days", "days"] := by decide +kernel
  obtain ⟨found, hfound⟩ := exists_result twoTables (fun _ => Binary64.zero) query none rfl
    (World.start () 0 none) rfl
  refine ⟨hserver, namesIndexes_twoTables, hc, htables, found, hfound, ?_⟩
  apply ((reported_once_iff hserver namesIndexes_twoTables hfound).2 hc).mpr
  rw [htables]
  have horders : ∀ u ∈ ["Orders", "Days", "days"], lowerCase "Orders" = lowerCase u →
      "Orders" = u := by decide +kernel
  have hnone : ∀ t ∈ ["Orders", "Days", "days"], t ≠ "Orders" → ∀ e ∈ twoTables,
      ∀ f ∈ twoTables, lowerCase f.index.table = lowerCase t → e.index.home = f.index.home →
        ¬ e.index.id < f.index.id := by decide +kernel
  intro t ht u hu heq k hk
  by_cases hname : t = "Orders"
  · subst hname
    exact horders u hu heq
  · obtain ⟨htable, ⟨f, hf, rfl⟩, _, ⟨e, he, rfl⟩, hless, halike⟩ := hk
    exact absurd hless (hnone t ht hname e he f hf htable halike.1)

/-- Two spellings of a table make its repeat reported twice. -/
theorem respelled_table_reported_twice :
    let query := "SELECT * FROM Orders JOIN orders ON 1 = 1"
    let s : Surroundings Unit Binary64 := ⟨.constant (catalogReply twoTables), fun _ => .zero⟩
    KnowsIndexes s.server lowerCase twoTables ∧ NamesIndexes twoTables ∧
      ∃ found, (Task.runIn s (redundantFor query none) (World.start () 0 none)).result = .ok found ∧
        ¬ (found.map Redundant.key).Nodup := by
  intro query s
  have hserver : KnowsIndexes s.server lowerCase twoTables := knowsIndexes_catalogReply _
  have hc : Consistent twoTables := by decide +kernel
  have htables : Query.tablesOf query = ["Orders", "orders"] := by decide +kernel
  obtain ⟨found, hfound⟩ := exists_result twoTables (fun _ => Binary64.zero) query none rfl
    (World.start () 0 none) rfl
  obtain ⟨parts, hparts, hkeys⟩ := exists_parts hserver namesIndexes_twoTables hfound
  refine ⟨hserver, namesIndexes_twoTables, found, hfound, ?_⟩
  rw [hkeys, nodup_parts_iff hc hparts (Query.nodup_tablesOf query), htables]
  intro hone
  have hlower : lowerCase "Orders" = lowerCase "orders" := by decide +kernel
  have hsame := hone "Orders" (by simp) "orders" (by simp) hlower _ isRepeat_twoTables
  simp at hsame

end Index

end QueryTuning
