import Mathlib.Data.List.Nodup
import QueryTuning.Proofs.Index.Entries

/-!
# Signatures as canonical forms

Key columns are put in the order of their ordinals and included columns in the order of
their names. Where ordinals and names are told apart, two indexes have one signature
exactly if they have the same columns, in whatever order the catalog lists them.
-/

set_option autoImplicit false

namespace QueryTuning.Index

def sortedKeys (cs : List Column) : List Column :=
  (cs.filter fun c => !c.isIncluded).mergeSort fun a b => a.ordinal ≤ b.ordinal

def sortedIncluded (cs : List Column) : List Column :=
  (cs.filter Column.isIncluded).mergeSort fun a b => a.name ≤ b.name

def Column.inSignature (c : Column) : SignatureColumn :=
  ⟨lowerCase c.name, c.ordinal, c.isIncluded, c.isDescending⟩

def signatureOf (cs : List Column) : Signature :=
  (sortedKeys cs ++ sortedIncluded cs).map Column.inSignature

theorem keyColumns_inCatalog (cs : List Column) :
    keyColumns (cs.map Column.inCatalog) = (sortedKeys cs).map Column.inCatalog := by
  rw [keyColumns, sortedKeys, List.filter_map, List.map_mergeSort]
  · rfl
  · exact fun a _ b _ => rfl

theorem includedColumns_inCatalog (cs : List Column) :
    includedColumns (cs.map Column.inCatalog) = .ok ((sortedIncluded cs).map Column.inCatalog) := by
  rw [includedColumns_eq, sortedIncluded, List.filter_map, List.map_mergeSort]
  · rfl
  · intro a _ b _
    simp only [nameAfter, Cell.lt?, Column.inCatalog, ← decide_not, String.not_lt]
  · intro c hc
    obtain ⟨d, -, rfl⟩ := List.mem_map.mp hc
    exact ⟨d.name, rfl⟩

theorem mapM_signatureColumn (cs : List Column) :
    (cs.map Column.inCatalog).mapM signatureColumn = .ok (cs.map Column.inSignature) := by
  induction cs with
  | nil => rfl
  | cons c cs ih =>
    rw [List.map_cons, List.mapM_cons, ih]
    rfl

theorem signature_inCatalog (cs : List Column) :
    signature (cs.map Column.inCatalog) = .ok (signatureOf cs) := by
  rw [signature, includedColumns_inCatalog, keyColumns_inCatalog, signatureOf,
    ← mapM_signatureColumn, List.map_append]
  rfl

structure Distinct (cs : List Column) : Prop where
  ordinals : ((cs.filter fun c => !c.isIncluded).map Column.ordinal).Nodup
  names : ((cs.filter Column.isIncluded).map Column.name).Nodup

instance : DecidablePred Distinct := fun cs =>
  decidable_of_iff (((cs.filter fun c => !c.isIncluded).map Column.ordinal).Nodup ∧
      ((cs.filter Column.isIncluded).map Column.name).Nodup)
    ⟨fun h => ⟨h.1, h.2⟩, fun h => ⟨h.ordinals, h.names⟩⟩

theorem mem_sorted {cs : List Column} {c : Column} :
    c ∈ sortedKeys cs ++ sortedIncluded cs ↔ c ∈ cs := by
  rw [List.mem_append, sortedKeys, sortedIncluded, List.mem_mergeSort, List.mem_mergeSort,
    List.mem_filter, List.mem_filter]
  cases c.isIncluded <;> simp

variable {cs ds : List Column}

theorem sorted_eq_of_mem_iff (hcs : Distinct cs) (hds : Distinct ds) (h : ∀ c, c ∈ cs ↔ c ∈ ds) :
    sortedKeys cs ++ sortedIncluded cs = sortedKeys ds ++ sortedIncluded ds := by
  congr 1
  · refine mergeSort_eq_of_mem_iff (f := Column.ordinal) (r := fun a b => decide (a ≤ b))
      ?_ ?_ ?_ hcs.ordinals hds.ordinals ?_
    · intro a b c hab hbc
      simp only [decide_eq_true_eq] at *
      omega
    · intro a b
      simp only [Bool.or_eq_true, decide_eq_true_eq]
      omega
    · intro a b hab hba
      simp only [decide_eq_true_eq] at *
      omega
    · simp [h]
  · refine mergeSort_eq_of_mem_iff (f := Column.name) (r := fun a b => decide (a ≤ b))
      ?_ ?_ ?_ hcs.names hds.names ?_
    · intro a b c hab hbc
      simp only [decide_eq_true_eq] at *
      exact String.le_trans hab hbc
    · intro a b
      simpa using String.le_total a b
    · intro a b hab hba
      simp only [decide_eq_true_eq] at *
      exact String.le_antisymm hab hba
    · simp [h]

theorem mem_of_signatureOf_eq (h : signatureOf cs = signatureOf ds)
    (hsame : ∀ c ∈ cs, ∀ d ∈ ds, c.inSignature = d.inSignature → c = d) {c : Column}
    (hc : c ∈ cs) : c ∈ ds := by
  have hmem := List.mem_map_of_mem (f := Column.inSignature) (mem_sorted.mpr hc)
  rw [← signatureOf, h] at hmem
  obtain ⟨d, hd, heq⟩ := List.mem_map.mp hmem
  rw [mem_sorted] at hd
  exact hsame c hc d hd heq.symm ▸ hd

/-- Columns have one signature exactly if they are the same, provided that no two names among them
differ in case only. -/
theorem signatureOf_eq_iff (hcs : Distinct cs) (hds : Distinct ds)
    (hspelled : ∀ c ∈ cs, ∀ d ∈ ds, lowerCase c.name = lowerCase d.name → c.name = d.name) :
    signatureOf cs = signatureOf ds ↔ ∀ c, c ∈ cs ↔ c ∈ ds := by
  constructor
  · intro h
    have hsame : ∀ c ∈ cs, ∀ d ∈ ds, c.inSignature = d.inSignature → c = d := by
      intro c hc d hd heq
      obtain ⟨hname, hrest⟩ := SignatureColumn.mk.inj heq
      have := hspelled c hc d hd hname
      cases c
      cases d
      simp_all
    exact fun c => ⟨mem_of_signatureOf_eq h hsame,
      mem_of_signatureOf_eq h.symm fun d hd c hc heq => (hsame c hc d hd heq.symm).symm⟩
  · intro h
    rw [signatureOf, signatureOf, sorted_eq_of_mem_iff hcs hds h]

end QueryTuning.Index
