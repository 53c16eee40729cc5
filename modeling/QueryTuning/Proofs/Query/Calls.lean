import Mathlib.Data.List.Infix
import QueryTuning.Proofs.Pattern.Parts
import QueryTuning.Proofs.Query.Issues

/-!
# Where a call ends

In a text whose first parenthesis opens a call, the search for the end of the call keeps count of
the parentheses that are open. The count stays positive from the first parenthesis up to the
place where the search stops, and is zero there. So the extent of a call is the shortest beginning
of the text in which the parentheses are balanced.
-/

set_option autoImplicit false

namespace QueryTuning.Query

open Pattern Text

def IsBalanced (text : List Char) : Prop := ')' ∈ text ∧ text.count '(' = text.count ')'

instance : DecidablePred IsBalanced := fun text =>
  inferInstanceAs (Decidable (')' ∈ text ∧ text.count '(' = text.count ')'))

/-- The first beginning of a text in which the parentheses are balanced. Before its end, some
parenthesis is open from the first one on. -/
structure IsFirstCall (text call : List Char) : Prop where
  begins : call <+: text
  balanced : IsBalanced call
  shortest : ∀ p, p <+: text → IsBalanced p → call.length ≤ p.length
  open_before : ∀ p, p <+: text → p.length < call.length → '(' ∈ p → p.count ')' < p.count '('

def openCount (text : List Char) : Int := text.count '(' - text.count ')'

variable {text p : List Char} {depth : Int} {n : Nat}

theorem openCount_cons (c : Char) (cs : List Char) :
    openCount (c :: cs) = openCount [c] + openCount cs := by
  simp only [openCount, List.count_cons, List.count_nil]
  omega

theorem openCount_of_not {c : Char} (hc : isParenthesis c = false) : openCount [c] = 0 := by
  obtain ⟨hopen, hclose⟩ : c ≠ '(' ∧ c ≠ ')' := by simpa [isParenthesis] using hc
  simp [openCount, hopen, hclose]

/-- One character changes the depth, or is the closing parenthesis that is looked for. -/
theorem balancedLength?_cons (depth : Int) (c : Char) (cs : List Char) :
    balancedLength? depth (c :: cs) =
      if c = ')' ∧ depth = 1 then some 1
      else (balancedLength? (depth + openCount [c]) cs).map (· + 1) := by
  rw [balancedLength?]
  by_cases hopen : c = '('
  · subst hopen
    rfl
  · by_cases hclose : c = ')'
    · subst hclose
      by_cases hone : depth = 1
      · simp [hone]
      · simp [hone, openCount, Int.sub_eq_add_neg]
    · have hkept : openCount [c] = 0 := openCount_of_not (by simp [isParenthesis, hopen, hclose])
      simp [hopen, hclose, hkept]

/-- Every parenthesis is closed where the search stops. -/
theorem openCount_take (hn : balancedLength? depth text = some n) :
    depth + openCount (text.take n) = 0 := by
  induction text generalizing depth n with
  | nil => cases hn
  | cons c cs ih =>
    rw [balancedLength?_cons] at hn
    split at hn
    next hstop =>
      obtain ⟨rfl, rfl⟩ := hstop
      obtain rfl : 1 = n := Option.some.inj hn
      rfl
    next =>
      obtain ⟨m, hm, rfl⟩ := Option.map_eq_some_iff.mp hn
      have hrest := ih hm
      rw [List.take_succ_cons, openCount_cons]
      omega

theorem lt_of_map_succ {found : Option Nat} {k : Nat} (h : ∀ n ∈ found.map (· + 1), k + 1 < n) :
    ∀ n ∈ found, k < n := by
  intro n hn
  have hsucc := h (n + 1) (Option.mem_map_of_mem _ hn)
  omega

/-- Before the search stops, some parenthesis stays open. -/
theorem openCount_before (hdepth : 0 < depth) (hp : p <+: text)
    (hbefore : ∀ n ∈ balancedLength? depth text, p.length < n) : 0 < depth + openCount p := by
  induction text generalizing depth p with
  | nil =>
    obtain rfl := List.prefix_nil.mp hp
    simpa [openCount] using hdepth
  | cons c cs ih =>
    cases p with
    | nil => simpa [openCount] using hdepth
    | cons d ps =>
      obtain ⟨rfl, hps⟩ := List.cons_prefix_cons.mp hp
      rw [balancedLength?_cons] at hbefore
      split at hbefore
      next => simpa using hbefore 1 rfl
      next hgoes =>
        -- A closing parenthesis that does not end the search leaves another one open.
        have hnext : 0 < depth + openCount [d] := by
          by_cases hclose : d = ')'
          · subst hclose
            have hone : depth ≠ 1 := fun h => hgoes ⟨rfl, h⟩
            have hstep : openCount [')'] = -1 := rfl
            omega
          · have hstep : 0 ≤ openCount [d] := by simp [openCount, hclose]
            omega
        have hrest := ih hnext hps (lt_of_map_succ hbefore)
        rw [openCount_cons]
        omega

/-- Where the first parenthesis is an opening one, it is open until the search stops. -/
theorem openCount_pos (hfirst : text.find? isParenthesis ≠ some ')') (hp : p <+: text)
    (hopen : '(' ∈ p) (hbefore : ∀ n ∈ balancedLength? 0 text, p.length < n) : 0 < openCount p := by
  induction text generalizing p with
  | nil =>
    obtain rfl := List.prefix_nil.mp hp
    cases hopen
  | cons c cs ih =>
    cases p with
    | nil => cases hopen
    | cons d ps =>
      obtain ⟨rfl, hps⟩ := List.cons_prefix_cons.mp hp
      rw [balancedLength?_cons, if_neg (by simp)] at hbefore
      have hlater := lt_of_map_succ hbefore
      rw [openCount_cons]
      by_cases hd : isParenthesis d = true
      · rw [List.find?_cons_of_pos hd] at hfirst
        obtain rfl : d = '(' := by
          have hne : d ≠ ')' := fun h => hfirst (congrArg some h)
          simpa [isParenthesis, hne] using hd
        exact openCount_before (by decide) hps hlater
      · rw [List.find?_cons_of_neg hd] at hfirst
        have hstays : openCount [d] = 0 := openCount_of_not (by simpa using hd)
        have hmem : '(' ∈ ps := by
          refine (List.mem_cons.mp hopen).resolve_left ?_
          rintro rfl
          exact hd rfl
        rw [hstays, Int.zero_add] at hlater ⊢
        exact ih hfirst hps hmem hlater

theorem IsBalanced.opens (h : IsBalanced p) : '(' ∈ p := by
  have hclose := List.count_pos_iff.mpr h.1
  exact List.count_pos_iff.mp (h.2 ▸ hclose)

theorem IsBalanced.openCount_eq (h : IsBalanced p) : openCount p = 0 := by
  rw [openCount, h.2]
  exact Int.sub_self _

/-- The search does not pass a place where the parentheses are balanced. -/
theorem not_isBalanced_before (hfirst : text.find? isParenthesis ≠ some ')') (hp : p <+: text)
    (hbefore : ∀ n ∈ balancedLength? 0 text, p.length < n) : ¬ IsBalanced p := by
  intro hbalanced
  have hopen := openCount_pos hfirst hp hbalanced.opens hbefore
  rw [hbalanced.openCount_eq] at hopen
  exact absurd hopen (by decide)

/-- What is taken for the call is the first one that is closed. Where none is closed it is all of
the text, without blanks at its ends. -/
theorem callExtent_cases (hfirst : text.find? isParenthesis ≠ some ')') :
    IsFirstCall text (callExtent text) ∨
      (∀ p, p <+: text → ¬ IsBalanced p) ∧ callExtent text = trim text := by
  unfold callExtent
  split
  next n hn =>
    obtain ⟨s, hs⟩ := balancedLength?_take hn
    have hcount : (text.take n).count '(' = (text.take n).count ')' := by
      have hzero := openCount_take hn
      rw [openCount] at hzero
      omega
    have hbefore : ∀ p : List Char, p.length < (text.take n).length →
        ∀ m ∈ balancedLength? 0 text, p.length < m := by
      intro p hlength m hm
      obtain rfl : n = m := Option.some.inj (hn.symm.trans hm)
      exact hlength.trans_le (List.length_take_le n text)
    refine .inl ⟨List.take_prefix n text, ⟨by simp [hs], hcount⟩, ?_, ?_⟩
    · intro p hp hbalanced
      by_contra hshort
      exact not_isBalanced_before hfirst hp (hbefore p (Nat.not_le.mp hshort)) hbalanced
    · intro p hp hlength hopen
      have hpos := openCount_pos hfirst hp hopen (hbefore p hlength)
      rw [openCount] at hpos
      omega
  next hnone =>
    exact .inr ⟨fun p hp => not_isBalanced_before hfirst hp (by simp [hnone]), rfl⟩

/-- In a text whose first parenthesis from some place on is an opening one, the extent of the call
there is the shortest beginning with balanced parentheses, up to the end of which some parenthesis
is open. If there is no such beginning, it is the rest of the text without blanks at its ends. -/
theorem call_ends_where_balanced (text : List Char) (start : Nat)
    (hfirst : (text.drop start).find? isParenthesis ≠ some ')') :
    ((∃ p, p <+: text.drop start ∧ IsBalanced p) →
        IsFirstCall (text.drop start) (callExtent (text.drop start))) ∧
      ((∀ p, p <+: text.drop start → ¬ IsBalanced p) →
        callExtent (text.drop start) = trim (text.drop start)) := by
  rcases callExtent_cases hfirst with hcall | ⟨hnone, htrim⟩
  · exact ⟨fun _ => hcall, fun hnone => absurd hcall.balanced (hnone _ hcall.begins)⟩
  · exact ⟨fun ⟨p, hp, hbalanced⟩ => absurd hbalanced (hnone p hp), fun _ => htrim⟩

/-- A call within a call is kept whole, and one that is never closed reaches to the end. -/
theorem nested_and_open_calls :
    let text := "WHERE UPPER(LTRIM(Name)) = LOWER((@a) + (@b ".toList
    ((text.drop 6).find? isParenthesis ≠ some ')' ∧
        IsFirstCall (text.drop 6) "UPPER(LTRIM(Name))".toList ∧
        callExtent (text.drop 6) = "UPPER(LTRIM(Name))".toList) ∧
      ((text.drop 27).find? isParenthesis ≠ some ')' ∧
        (∀ p, p <+: text.drop 27 → ¬ IsBalanced p) ∧
        callExtent (text.drop 27) = "LOWER((@a) + (@b".toList) := by
  intro text
  have hnested : (text.drop 6).find? isParenthesis ≠ some ')' := by decide +kernel
  have hbalanced : ∃ p, p <+: text.drop 6 ∧ IsBalanced p :=
    ⟨"UPPER(LTRIM(Name))".toList, by decide +kernel, by decide +kernel⟩
  have hextent : callExtent (text.drop 6) = "UPPER(LTRIM(Name))".toList := by decide +kernel
  have hopen : (text.drop 27).find? isParenthesis ≠ some ')' := by decide +kernel
  have hnone : ∀ p, p <+: text.drop 27 → ¬ IsBalanced p := by
    have hinits : ∀ p ∈ (text.drop 27).inits, ¬ IsBalanced p := by decide +kernel
    exact fun p hp => hinits p ((List.mem_inits p _).mpr hp)
  have htrim : trim (text.drop 27) = "LOWER((@a) + (@b".toList := by decide +kernel
  exact ⟨⟨hnested, hextent ▸ (call_ends_where_balanced text 6 hnested).1 hbalanced, hextent⟩,
    hopen, hnone, ((call_ends_where_balanced text 27 hopen).2 hnone).trans htrim⟩

def OpensCall (c : Cursor) : Prop := c.rest.find? isParenthesis = some '('

def TakesCall (q : Pattern) : Prop := ∀ ⦃c d : Cursor⦄, d ∈ ends q c → OpensCall c

section

variable {q r : Pattern}

theorem takesCall_parenthesis : TakesCall (seq (letter '(') r) := by
  intro c d hd
  obtain ⟨m, hm, -⟩ := mem_ends_seq.mp hd
  obtain ⟨xs, hrest, -⟩ := Cursor.spans_singleton.mp ((mem_ends_mark (by decide)).mp hm)
  rw [OpensCall, hrest]
  rfl

/-- A pattern that takes no parentheses may come before the one that opens the call. -/
theorem takesCall_seq (hq : avoids ['(', ')'] q = true) (hr : TakesCall r) :
    TakesCall (seq q r) := by
  intro c d hd
  obtain ⟨m, hm, hlater⟩ := mem_ends_seq.mp hd
  obtain ⟨t, ht, haccepts⟩ := accepts_of_mem_ends hm
  have hnone : t.find? isParenthesis = none := by
    rw [List.find?_eq_none]
    intro x hx
    simpa [isParenthesis] using not_mem_of_avoids hq haccepts hx
  have hrest : m.rest.find? isParenthesis = some '(' := hr hlater
  rw [OpensCall, ht.rest, List.find?_append, hnone, Option.none_or, hrest]

end

/-- The name of a function and its argument list. -/
theorem takesCall_filterFunction : TakesCall (seq filterFunction columnArgument) :=
  takesCall_seq (by decide +kernel) (takesCall_seq (by decide +kernel) takesCall_parenthesis)

theorem takesCall_qualifiedCall : TakesCall qualifiedCall :=
  takesCall_seq (by decide +kernel) (takesCall_seq (by decide +kernel)
    (takesCall_seq (by decide +kernel) (takesCall_seq (by decide +kernel) takesCall_parenthesis)))

def IsCallWithin (text fragment : List Char) : Prop :=
  ∃ rest, rest <:+ text ∧
    (IsFirstCall rest fragment ∨ (∀ p, p <+: rest → ¬ IsBalanced p) ∧ fragment = trim rest)

theorem OpensCall.isCallWithin {c : Cursor} (h : OpensCall c) (hwithin : c.rest <:+ text) :
    IsCallWithin text (callExtent c.rest) := by
  have hfirst : c.rest.find? isParenthesis ≠ some ')' := by
    rw [h]
    decide
  exact ⟨c.rest, hwithin, callExtent_cases hfirst⟩

variable {issue : Issue}

/-- What is reported of a function in a filter is its call. -/
theorem filterFunction_reports_call (hissue : filterFunctionRule text = some issue) :
    IsCallWithin text issue.fragment.toList := by
  obtain ⟨c, d, e, hwithin, hfunction, hargument, hfragment⟩ := exists_filterFunction hissue
  have hopens : OpensCall c :=
    takesCall_filterFunction (mem_ends_seq.mpr ⟨d, hfunction, hargument⟩)
  rw [hfragment]
  exact hopens.isCallWithin hwithin

/-- What is reported of a function in a projection is its call within the projection. -/
theorem scalarFunction_reports_call (hissue : scalarFunctionRule text = some issue) :
    ∃ selection ∈ findAll projectionParts text,
      IsCallWithin (selection.part 1) issue.fragment.toList := by
  obtain ⟨selection, hselection, c, d, hwithin, hcall, hfragment, -⟩ :=
    exists_scalarFunction hissue
  have hopens : OpensCall c := takesCall_qualifiedCall hcall
  refine ⟨selection, hselection, ?_⟩
  rw [hfragment]
  exact hopens.isCallWithin hwithin

end QueryTuning.Query
