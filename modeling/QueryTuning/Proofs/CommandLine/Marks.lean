import Mathlib.Data.List.DropRight
import QueryTuning.CommandLine.Display
import QueryTuning.Proofs.Text.Runs

/-!
# Style marks

What a terminal shows of a line: its text without the style marks. A bracket that backslashes
escape opens no mark, and a text is shown as it is exactly if it holds no mark.
-/

set_option autoImplicit false

namespace QueryTuning.CommandLine

open Text

variable {text before inside after s t : List Char} {c : Char} {escaped : Bool}

def opensMark (c : Char) : Bool := ('a' ≤ c && c ≤ 'z') || c == '#' || c == '/' || c == '@'

def isPlain (c : Char) : Bool := c != '[' && c != ']'

/-- A class without the brackets holds plain characters only. -/
theorem isPlain_of_class {q : Char → Bool} (hopen : q '[' = false) (hclose : q ']' = false)
    (h : q c = true) : isPlain c = true := by
  rw [isPlain, Bool.and_eq_true, bne_iff_ne, bne_iff_ne]
  constructor <;> rintro rfl
  · simp [hopen] at h
  · simp [hclose] at h

structure IsMark (inside : List Char) : Prop where
  opens : ∃ c, inside.head? = some c ∧ opensMark c = true
  plain : ∀ c ∈ inside, isPlain c = true

/-- An odd number of backslashes at the end of a text escapes a bracket after it. -/
def Escapes (before : List Char) : Prop := (before.rtakeWhile (· == '\\')).length % 2 = 1

def HoldsMark (text : List Char) : Prop :=
  ∃ before inside after, text = before ++ '[' :: (inside ++ ']' :: after) ∧
    IsMark inside ∧ ¬ Escapes before

def beginsMark : List Char → Bool
  | '[' :: text =>
    text.head?.any opensMark && decide ((text.dropWhile isPlain).head? = some ']')
  | _ => false

theorem beginsMark_iff : beginsMark text = true ↔
    ∃ inside after, text = '[' :: (inside ++ ']' :: after) ∧ IsMark inside := by
  constructor
  · intro h
    unfold beginsMark at h
    split at h
    next text =>
      rw [Bool.and_eq_true, Option.any_eq_true, decide_eq_true_eq] at h
      obtain ⟨⟨c, hc, hopens⟩, hclose⟩ := h
      obtain ⟨cs, rfl⟩ := List.head?_eq_some_iff.mp hc
      obtain ⟨after, hafter⟩ := List.head?_eq_some_iff.mp hclose
      refine ⟨(c :: cs).takeWhile isPlain, after, ?_, ⟨c, ?_, hopens⟩,
        fun c hc => List.mem_takeWhile_imp hc⟩
      · rw [← hafter, List.takeWhile_append_dropWhile]
      · have hplain : isPlain c = true := isPlain_of_class (by decide) (by decide) hopens
        rw [List.takeWhile_cons_of_pos hplain, List.head?_cons]
    · cases h
  · rintro ⟨inside, after, rfl, ⟨c, hc, hopens⟩, hplain⟩
    have hend : (inside ++ ']' :: after).dropWhile isPlain = ']' :: after :=
      dropWhile_append_outside hplain (startsOutside_cons.mpr (by decide))
    simp [beginsMark, hend, List.head?_append, hc, hopens]

def escapedAfter (escaped : Bool) (text : List Char) : Bool :=
  text.foldl (fun escaped c => c == '\\' && !escaped) escaped

theorem escapedAfter_cons : escapedAfter escaped (c :: text) =
    escapedAfter (c == '\\' && !escaped) text := rfl

theorem escapedAfter_append :
    escapedAfter escaped (s ++ t) = escapedAfter (escapedAfter escaped s) t :=
  List.foldl_append

theorem escapedAfter_concat : escapedAfter escaped (text ++ [c]) =
    (c == '\\' && !escapedAfter escaped text) := by
  rw [escapedAfter_append, escapedAfter_cons]
  rfl

/-- A text that ends in something other than a backslash escapes nothing. -/
theorem escapedAfter_of_last (h : text.getLast? ≠ some '\\') : escapedAfter false text = false := by
  rcases List.eq_nil_or_concat text with rfl | ⟨text, c, rfl⟩
  · rfl
  · rw [List.concat_eq_append] at h ⊢
    rw [escapedAfter_concat]
    simp_all

theorem escapes_iff : Escapes before ↔ escapedAfter false before = true := by
  induction before using List.reverseRecOn with
  | nil => simp [Escapes, escapedAfter]
  | append_singleton before c ih =>
    rw [escapedAfter_concat]
    unfold Escapes at ih ⊢
    by_cases hc : c = '\\'
    · have hlong : (before ++ [c]).rtakeWhile (· == '\\') =
          before.rtakeWhile (· == '\\') ++ [c] :=
        List.rtakeWhile_concat_pos _ _ _ (by simp [hc])
      rw [hlong, List.length_append, List.length_singleton]
      cases hprev : escapedAfter false before <;> simp [hprev, hc] at ih ⊢ <;> omega
    · rw [List.rtakeWhile_concat_neg _ _ _ (by simp [hc])]
      simp [hc]

def HoldsMarkFrom (escaped : Bool) (text : List Char) : Prop :=
  ∃ before inside after, text = before ++ '[' :: (inside ++ ']' :: after) ∧
    IsMark inside ∧ escapedAfter escaped before = false

theorem holdsMark_iff : HoldsMark text ↔ HoldsMarkFrom false text := by
  simp only [HoldsMark, HoldsMarkFrom, escapes_iff, Bool.not_eq_true]

theorem holdsMarkFrom_cons : HoldsMarkFrom escaped (c :: text) ↔
    escaped = false ∧ beginsMark (c :: text) = true ∨
      HoldsMarkFrom (c == '\\' && !escaped) text := by
  rw [beginsMark_iff]
  constructor
  · rintro ⟨before, inside, after, htext, hmark, hescaped⟩
    cases before with
    | nil => exact .inl ⟨hescaped, inside, after, htext, hmark⟩
    | cons b before =>
      obtain ⟨rfl, htail⟩ := List.cons.inj htext
      exact .inr ⟨before, inside, after, htail, hmark, hescaped⟩
  · rintro (⟨hescaped, inside, after, htext, hmark⟩ | ⟨before, inside, after, rfl, hmark, hescaped⟩)
    · exact ⟨[], inside, after, htext, hmark, hescaped⟩
    · exact ⟨c :: before, inside, after, rfl, hmark, hescaped⟩

/-- Text without brackets holds no mark. -/
theorem holdsMarkFrom_plain (h : ∀ c ∈ s, isPlain c = true) :
    HoldsMarkFrom escaped (s ++ t) ↔ HoldsMarkFrom (escapedAfter escaped s) t := by
  induction s generalizing escaped with
  | nil => exact Iff.rfl
  | cons c s ih =>
    have hnone : beginsMark (c :: (s ++ t)) = false := by
      rw [Bool.eq_false_iff, Ne, beginsMark_iff]
      rintro ⟨inside, after, htext, -⟩
      obtain ⟨rfl, -⟩ := List.cons.inj htext
      exact absurd (h '[' (by simp)) (by decide)
    rw [List.cons_append, holdsMarkFrom_cons, hnone, ih fun d hd => h d (by simp [hd])]
    simp [escapedAfter_cons]

/-- A name in brackets is a mark, or what comes after it holds one. -/
theorem holdsMarkFrom_bracketed (h : ∀ c ∈ inside, isPlain c = true) :
    HoldsMarkFrom false ('[' :: (inside ++ ']' :: after)) ↔
      inside.head?.any opensMark = true ∨ HoldsMarkFrom false after := by
  have hend : (inside ++ ']' :: after).dropWhile isPlain = ']' :: after :=
    dropWhile_append_outside h (startsOutside_cons.mpr (by decide))
  have hbegins : beginsMark ('[' :: (inside ++ ']' :: after)) = inside.head?.any opensMark := by
    cases inside with
    | nil => simp [beginsMark, (by decide : opensMark ']' = false)]
    | cons c inside =>
      rw [beginsMark, hend]
      simp
  have hclose : beginsMark (']' :: after) = false := rfl
  have hstate : ∀ escaped, (']' == '\\' && !escaped) = false := fun _ => rfl
  rw [holdsMarkFrom_cons, hbegins, holdsMarkFrom_plain h, holdsMarkFrom_cons, hclose, hstate]
  simp

theorem not_holdsMarkFrom_of_plain (h : ∀ c ∈ text, isPlain c = true) :
    ¬ HoldsMarkFrom escaped text := by
  rintro ⟨before, inside, after, rfl, -, -⟩
  exact absurd (h '[' (by simp)) (by decide)

def withoutMarks : (escaped inMark : Bool) → List Char → List Char
  | _, _, [] => []
  | _, true, c :: cs => withoutMarks false (c != ']') cs
  | escaped, false, c :: cs =>
    if !escaped && beginsMark (c :: cs) then withoutMarks false true cs
    else c :: withoutMarks (c == '\\' && !escaped) false cs

def displayed (text : String) : String := String.ofList (withoutMarks false false text.toList)

theorem withoutMarks_skip (h : ∀ c ∈ inside, isPlain c = true) :
    withoutMarks escaped true (inside ++ ']' :: after) = withoutMarks false false after := by
  induction inside generalizing escaped with
  | nil => rfl
  | cons c inside ih =>
    have hc : (c != ']') = true := (Bool.and_eq_true_iff.mp (h c (by simp))).2
    rw [List.cons_append, withoutMarks, hc]
    exact ih fun d hd => h d (by simp [hd])

theorem withoutMarks_mark (h : IsMark inside) :
    withoutMarks false false ('[' :: (inside ++ ']' :: after)) =
      withoutMarks false false after := by
  rw [withoutMarks, if_pos]
  · exact withoutMarks_skip h.plain
  · rw [Bool.not_false, Bool.true_and, beginsMark_iff]
    exact ⟨inside, after, rfl, h⟩

theorem withoutMarks_kept (h : ¬ (escaped = false ∧ beginsMark (c :: text) = true)) :
    withoutMarks escaped false (c :: text) =
      c :: withoutMarks (c == '\\' && !escaped) false text := by
  rw [withoutMarks, if_neg]
  simpa using h

/-- A plain text in front is shown. -/
theorem withoutMarks_plain {plain text : List Char} (h : ∀ c ∈ plain, c ≠ '[' ∧ c ≠ '\\') :
    withoutMarks false false (plain ++ text) = plain ++ withoutMarks false false text := by
  induction plain with
  | nil => rfl
  | cons c plain ih =>
    obtain ⟨hopen, hescape⟩ := h c (by simp)
    have hmark : beginsMark (c :: (plain ++ text)) = false := by
      rw [Bool.eq_false_iff, Ne, beginsMark_iff]
      rintro ⟨inside, after, htext, -⟩
      exact hopen (List.cons.inj htext).1
    have hstate : (c == '\\' && !false) = false := by simp [hescape]
    rw [List.cons_append, withoutMarks_kept (by simp [hmark]), hstate,
      ih fun d hd => h d (by simp [hd])]
    rfl

theorem length_withoutMarks (escaped inMark : Bool) (text : List Char) :
    (withoutMarks escaped inMark text).length ≤ text.length := by
  induction text generalizing escaped inMark with
  | nil => simp [withoutMarks]
  | cons c text ih =>
    cases inMark with
    | true => exact (ih false _).trans (Nat.le_succ _)
    | false =>
      rw [withoutMarks]
      split
      · exact (ih false true).trans (Nat.le_succ _)
      · exact Nat.succ_le_succ (ih _ false)

/-- Exactly a text without marks is shown as it is. -/
theorem withoutMarks_eq_self_iff :
    withoutMarks escaped false text = text ↔ ¬ HoldsMarkFrom escaped text := by
  induction text generalizing escaped with
  | nil => simp [withoutMarks, HoldsMarkFrom]
  | cons c text ih =>
    rw [holdsMarkFrom_cons]
    by_cases hmark : escaped = false ∧ beginsMark (c :: text) = true
    · have hlength := length_withoutMarks false true text
      have hskip : withoutMarks escaped false (c :: text) = withoutMarks false true text := by
        rw [withoutMarks, if_pos (by simp [hmark])]
      rw [hskip]
      refine iff_of_false ?_ (by simp [hmark])
      intro heq
      rw [heq, List.length_cons] at hlength
      exact Nat.not_succ_le_self _ hlength
    · rw [withoutMarks_kept hmark, List.cons_inj_right, ih]
      simp only [hmark, false_or]

theorem displayed_eq_self_iff (text : String) :
    displayed text = text ↔ ¬ HoldsMark text.toList := by
  rw [holdsMark_iff, ← withoutMarks_eq_self_iff, displayed, ← String.toList_inj,
    String.toList_ofList]

theorem beginsMark_append (t : List Char) :
    beginsMark (c :: (text ++ '[' :: t)) = beginsMark (c :: text) := by
  rw [Bool.eq_iff_iff, beginsMark_iff, beginsMark_iff]
  constructor
  · rintro ⟨inside, after, htext, hmark⟩
    obtain ⟨rfl, htail⟩ := List.cons.inj htext
    rcases List.append_eq_append_iff.mp htail with ⟨u, hinside, hu⟩ | ⟨u, rfl, hu⟩
    · cases u with
      | nil => cases hu
      | cons d u =>
        obtain ⟨rfl, -⟩ := List.cons.inj hu
        exact absurd (hmark.plain '[' (by simp [hinside])) (by decide)
    · cases u with
      | nil => cases hu
      | cons d u =>
        obtain ⟨rfl, -⟩ := List.cons.inj hu
        exact ⟨inside, u, rfl, hmark⟩
  · rintro ⟨inside, after, htext, hmark⟩
    obtain ⟨rfl, rfl⟩ := List.cons.inj htext
    exact ⟨inside, after ++ '[' :: t, by simp, hmark⟩

/-- No mark goes across a bracket that opens one. -/
theorem withoutMarks_append (escaped : Bool) (s t : List Char) :
    withoutMarks escaped false (s ++ '[' :: t) =
      withoutMarks escaped false s ++ withoutMarks (escapedAfter escaped s) false ('[' :: t) := by
  induction hn : s.length using Nat.strongRecOn generalizing s escaped with
  | _ n ih =>
    cases s with
    | nil => rfl
    | cons c s =>
      by_cases hmark : escaped = false ∧ beginsMark (c :: s) = true
      · obtain ⟨rfl, hbegins⟩ := hmark
        obtain ⟨inside, after, htext, hinside⟩ := beginsMark_iff.mp hbegins
        have hshort : after.length < n := by
          rw [← hn, htext]
          simp only [List.length_cons, List.length_append]
          omega
        have hstate : escapedAfter false (c :: s) = escapedAfter false after := by
          rw [htext, escapedAfter_cons, escapedAfter_append, escapedAfter_cons]
          rfl
        rw [hstate, htext, withoutMarks_mark hinside, ← ih _ hshort false after rfl]
        simp only [List.cons_append, List.append_assoc]
        exact withoutMarks_mark hinside
      · have hmark' : ¬ (escaped = false ∧ beginsMark (c :: (s ++ '[' :: t)) = true) := by
          rwa [beginsMark_append]
        rw [List.cons_append, withoutMarks_kept hmark, withoutMarks_kept hmark',
          ih s.length (by simp [← hn]) _ s rfl]
        rfl

end QueryTuning.CommandLine
