import Mathlib.Data.List.Basic
import QueryTuning.Text.Basic

/-!
# Runs of characters

The runs of a class are the longest stretches of a text whose characters all belong to
it. Texts may be cut at every place where no run goes across, and a text whose blanks
are tidied has the runs it had before, for every class without blanks.
-/

set_option autoImplicit false

namespace QueryTuning.Text

/-- The longest stretches of a text within a class of characters, from left to right. -/
def runs (p : Char → Bool) (text : List Char) : List (List Char) :=
  (text.splitOnP fun c => !p c).filter (· ≠ [])

def StartsOutside (p : Char → Bool) (text : List Char) : Prop :=
  ∀ c, text.head? = some c → p c = false

def EndsOutside (p : Char → Bool) (text : List Char) : Prop :=
  ∀ c, text.getLast? = some c → p c = false

variable {p q : Char → Bool}

instance (text : List Char) : Decidable (StartsOutside p text) :=
  decidable_of_iff (text.head?.any p = false) (by simp [StartsOutside, Option.any_eq_false])

instance (text : List Char) : Decidable (EndsOutside p text) :=
  decidable_of_iff (text.getLast?.any p = false) (by simp [EndsOutside, Option.any_eq_false])

theorem startsOutside_nil : StartsOutside p [] := by
  intro c h
  simp at h

theorem startsOutside_cons {c : Char} {text : List Char} :
    StartsOutside p (c :: text) ↔ p c = false := by
  constructor
  · intro h
    exact h c rfl
  · intro h d hd
    obtain rfl : c = d := by simpa using hd
    exact h

theorem StartsOutside.mono (h : ∀ c, p c = true → q c = true) {text : List Char}
    (ht : StartsOutside q text) : StartsOutside p text := by
  intro c hc
  have hq := ht c hc
  by_contra hp
  simp [h c (by simpa using hp)] at hq

theorem startsOutside_dropWhile (p : Char → Bool) (text : List Char) :
    StartsOutside p (text.dropWhile p) := by
  intro c hc
  have hstop := List.head?_dropWhile_not p text
  rwa [hc] at hstop

theorem dropWhile_append_outside {s t : List Char} (hs : ∀ c ∈ s, p c = true)
    (ht : StartsOutside p t) : (s ++ t).dropWhile p = t := by
  rw [List.dropWhile_append_of_pos hs]
  cases t with
  | nil => rfl
  | cons c t => rw [List.dropWhile_cons_of_neg (by simp [startsOutside_cons.mp ht])]

/-- Where a stretch of a class ends is told by the text. -/
theorem append_outside_inj {s t s' t' : List Char} (hs : ∀ c ∈ s, p c = true)
    (ht : ∀ c ∈ t, p c = true) (hs' : StartsOutside p s') (ht' : StartsOutside p t')
    (h : s ++ s' = t ++ t') : s = t ∧ s' = t' := by
  obtain rfl : s' = t' := by
    rw [← dropWhile_append_outside hs hs', h, dropWhile_append_outside ht ht']
  exact ⟨List.append_cancel_right h, rfl⟩

/-- A stretch of a class does not reach beyond a character outside it. -/
theorem split_of_append_eq {s t s' t' : List Char} (hs : ∀ c ∈ s, p c = true)
    (ht : ∃ c ∈ t, p c = false) (h : s ++ s' = t ++ t') :
    ∃ u, u ≠ [] ∧ t = s ++ u ∧ s' = u ++ t' := by
  obtain ⟨x, hx, hout⟩ := ht
  rcases List.append_eq_append_iff.mp h with ⟨u, rfl, rfl⟩ | ⟨u, rfl, -⟩
  · refine ⟨u, ?_, rfl, rfl⟩
    rintro rfl
    simp [hs x (by simpa using hx)] at hout
  · simp [hs x (by simp [hx])] at hout

theorem endsOutside_append_singleton {c : Char} {text : List Char} :
    EndsOutside p (text ++ [c]) ↔ p c = false := by
  simp [EndsOutside]

theorem runs_nil : runs p [] = [] := by simp [runs]

theorem mem_runs_ne_nil {text s : List Char} (h : s ∈ runs p text) : s ≠ [] := by
  simpa using (List.mem_filter.mp h).2

theorem runs_append_cons {c : Char} (hc : p c = false) (s t : List Char) :
    runs p (s ++ c :: t) = runs p s ++ runs p t := by
  rw [runs, List.splitOnP_append_cons s t (by simp [hc]), List.filter_append]
  rfl

theorem runs_cons_of_not {c : Char} (hc : p c = false) (t : List Char) :
    runs p (c :: t) = runs p t := by
  have h := runs_append_cons hc [] t
  simpa [runs_nil] using h

theorem runs_of_all {s : List Char} (hs : s ≠ []) (h : ∀ c ∈ s, p c = true) :
    runs p s = [s] := by
  rw [runs, List.splitOnP_eq_singleton]
  · simp [hs]
  · intro c hc
    simp [h c hc]

theorem runs_of_none {s : List Char} (h : ∀ c ∈ s, p c = false) : runs p s = [] := by
  induction s with
  | nil => exact runs_nil
  | cons c s ih =>
    rw [runs_cons_of_not (h c (by simp))]
    exact ih fun d hd => h d (by simp [hd])

/-- A text is either within a class or has a first character outside it. -/
theorem all_or_split (p : Char → Bool) (text : List Char) :
    (∀ c ∈ text, p c = true) ∨
      ∃ s c t, text = s ++ c :: t ∧ p c = false ∧ ∀ d ∈ s, p d = true := by
  induction text with
  | nil => exact .inl (by simp)
  | cons c text ih =>
    by_cases hc : p c = true
    · rcases ih with h | ⟨s, d, t, rfl, hd, hs⟩
      · exact .inl (by simpa [hc] using h)
      · exact .inr ⟨c :: s, d, t, rfl, hd, by simpa [hc] using hs⟩
    · exact .inr ⟨[], c, text, rfl, by simpa using hc, by simp⟩

/-- No run goes across a place with a character outside the class before or after it. -/
theorem runs_append {s t : List Char} (h : EndsOutside p s ∨ StartsOutside p t) :
    runs p (s ++ t) = runs p s ++ runs p t := by
  rcases h with h | h
  · rcases List.eq_nil_or_concat s with rfl | ⟨s, c, rfl⟩
    · simp [runs_nil]
    · have hc : p c = false := endsOutside_append_singleton.mp (by simpa using h)
      have hs : runs p (s ++ [c]) = runs p s := by
        simpa [runs_nil] using runs_append_cons hc s []
      simp only [List.concat_eq_append] at *
      rw [hs, List.append_assoc, List.singleton_append, runs_append_cons hc]
  · cases t with
    | nil => simp [runs_nil]
    | cons c t =>
      have hc : p c = false := startsOutside_cons.mp h
      rw [runs_append_cons hc, runs_cons_of_not hc]

theorem runs_cons_apart {c : Char} (hc : p c = true) {t : List Char} (ht : StartsOutside p t) :
    runs p (c :: t) = [c] :: runs p t := by
  have hone : runs p [c] = [[c]] := runs_of_all (by simp) (by simpa using hc)
  have hsplit : runs p ([c] ++ t) = runs p [c] ++ runs p t := runs_append (.inr ht)
  rw [List.singleton_append, hone] at hsplit
  exact hsplit

/-- A character before a run belongs to it. -/
theorem runs_cons_joined {c d : Char} (hc : p c = true) (hd : p d = true) (t : List Char) :
    ∃ s rest, runs p (d :: t) = s :: rest ∧ runs p (c :: d :: t) = (c :: s) :: rest := by
  obtain ⟨r, rs, hr⟩ := List.exists_cons_of_ne_nil (List.splitOnP_ne_nil (fun c => !p c) t)
  refine ⟨d :: r, rs.filter (· ≠ []), ?_, ?_⟩ <;>
    simp [runs, List.splitOnP_cons_eq_if_modifyHead, hc, hd, hr]

/-- A character of the class before a text is a run of its own or goes to the first run. -/
theorem runs_cons_cases {c : Char} (hc : p c = true) (t : List Char) :
    (StartsOutside p t ∧ runs p (c :: t) = [c] :: runs p t) ∨
      (¬ StartsOutside p t ∧
        ∃ s rest, s ≠ [] ∧ runs p t = s :: rest ∧ runs p (c :: t) = (c :: s) :: rest) := by
  by_cases ht : StartsOutside p t
  · exact .inl ⟨ht, runs_cons_apart hc ht⟩
  · cases t with
    | nil => exact absurd startsOutside_nil ht
    | cons d t =>
      have hd : p d = true := by simpa [startsOutside_cons] using ht
      obtain ⟨s, rest, hone, htwo⟩ := runs_cons_joined hc hd t
      have hs : s ∈ runs p (d :: t) := by simp [hone]
      exact .inr ⟨ht, s, rest, mem_runs_ne_nil hs, hone, htwo⟩

theorem runs_cons_ne_nil {c : Char} (hc : p c = true) (t : List Char) : runs p (c :: t) ≠ [] := by
  rcases runs_cons_cases hc t with ⟨-, h⟩ | ⟨-, s, rest, -, -, h⟩ <;> simp [h]

theorem runs_ne_nil_of_mem {c : Char} (hc : p c = true) {text : List Char} (h : c ∈ text) :
    runs p text ≠ [] := by
  induction text with
  | nil => simp at h
  | cons d text ih =>
    by_cases hd : p d = true
    · exact runs_cons_ne_nil hd text
    · rw [runs_cons_of_not (by simpa using hd)]
      refine ih ((List.mem_cons.mp h).resolve_left ?_)
      rintro rfl
      exact hd hc

/-- A first character of the class and the runs after it can be read off the runs of a text. -/
theorem runs_cons_inj {c d : Char} (hc : p c = true) (hd : p d = true) {s t : List Char}
    (h : runs p (c :: s) = runs p (d :: t)) :
    c = d ∧ runs p s = runs p t ∧ (StartsOutside p s ↔ StartsOutside p t) := by
  rcases runs_cons_cases hc s with ⟨hs, hcs⟩ | ⟨hs, r, rest, hr, hone, hcs⟩ <;>
    rcases runs_cons_cases hd t with ⟨ht, hdt⟩ | ⟨ht, r', rest', hr', hone', hdt⟩ <;>
      rw [hcs, hdt] at h
  · obtain ⟨hhead, htail⟩ := List.cons.inj h
    exact ⟨(List.cons.inj hhead).1, htail, by simp [hs, ht]⟩
  · exact absurd (List.cons.inj (List.cons.inj h).1).2.symm hr'
  · exact absurd (List.cons.inj (List.cons.inj h).1).2 hr
  · obtain ⟨hhead, rfl⟩ := List.cons.inj h
    obtain ⟨rfl, rfl⟩ := List.cons.inj hhead
    exact ⟨rfl, hone.trans hone'.symm, by simp [hs, ht]⟩

/-- Characters outside the class may be dropped from the front. -/
theorem runs_dropWhile (h : ∀ c, q c = true → p c = false) (text : List Char) :
    runs p (text.dropWhile q) = runs p text := by
  induction text with
  | nil => rfl
  | cons c text ih =>
    by_cases hc : q c = true
    · rw [List.dropWhile_cons_of_pos hc, ih, runs_cons_of_not (h c hc)]
    · rw [List.dropWhile_cons_of_neg hc]

theorem length_runs_cons {c : Char} (hc : p c = true) (t : List Char) :
    (runs p (c :: t)).length = (runs p t).length + bif t.head?.any p then 0 else 1 := by
  cases t with
  | nil =>
    rw [runs_cons_apart hc startsOutside_nil]
    rfl
  | cons d t =>
    by_cases hd : p d = true
    · obtain ⟨s, rest, hone, htwo⟩ := runs_cons_joined hc hd t
      simp [hone, htwo, hd]
    · have hd : p d = false := by simpa using hd
      rw [runs_cons_apart hc (startsOutside_cons.mpr hd)]
      simp [hd]

/-- Where a run goes across, cutting the text makes two runs of it. -/
theorem length_runs_append_joined {s t : List Char} (hs : ¬ EndsOutside p s)
    (ht : ¬ StartsOutside p t) :
    (runs p s).length + (runs p t).length = (runs p (s ++ t)).length + 1 := by
  obtain ⟨d, hd, hpd⟩ : ∃ d, t.head? = some d ∧ p d = true := by
    simpa [StartsOutside] using ht
  induction s with
  | nil => simp [EndsOutside] at hs
  | cons c s ih =>
    cases s with
    | nil =>
      have hc : p c = true := by simpa [EndsOutside] using hs
      have hone : runs p [c] = [[c]] := runs_of_all (by simp) (by simpa using hc)
      rw [hone, List.singleton_append, length_runs_cons hc, hd]
      simp [hpd, Nat.add_comm]
    | cons e s =>
      have hrest := ih (by simpa [EndsOutside] using hs)
      by_cases hc : p c = true
      · rw [List.cons_append, length_runs_cons hc, length_runs_cons hc]
        simp only [List.cons_append, List.head?_cons] at hrest ⊢
        omega
      · have hc : p c = false := by simpa using hc
        rw [List.cons_append, runs_cons_of_not hc, runs_cons_of_not hc]
        exact hrest

/-- The runs of a smaller class lie within those of a larger one. -/
theorem runs_eq_flatMap (h : ∀ c, p c = true → q c = true) (text : List Char) :
    runs p text = (runs q text).flatMap (runs p) := by
  induction hn : text.length using Nat.strongRecOn generalizing text with
  | _ n ih =>
    rcases all_or_split q text with hall | ⟨s, c, t, rfl, hc, -⟩
    · by_cases hempty : text = []
      · simp [hempty, runs_nil]
      · rw [runs_of_all hempty hall]
        simp
    · have hpc : p c = false := by
        by_contra hp
        simp [h c (by simpa using hp)] at hc
      rw [runs_append_cons hpc, runs_append_cons hc, List.flatMap_append]
      simp only [List.length_append, List.length_cons] at hn
      rw [ih s.length (by omega) s rfl, ih t.length (by omega) t rfl]

def isInk (c : Char) : Bool := !isBlank c

theorem isInk_of_isBlank {c : Char} (hc : isBlank c = true) : isInk c = false := by
  simp [isInk, hc]

theorem startsOutside_isInk {t : List Char} (hstart : StartsOutside isBlank t) :
    StartsOutside isInk t ↔ runs isInk t = [] := by
  cases t with
  | nil => simp [startsOutside_nil, runs_nil]
  | cons x t =>
    have hx : isInk x = true := by simp [isInk, startsOutside_cons.mp hstart]
    simp [startsOutside_cons, hx, runs_cons_ne_nil hx]

/-- Where ink is still to come, either a blank or ink comes next. -/
theorem startsOutside_isBlank {t : List Char} (hink : runs isInk t ≠ []) :
    StartsOutside isBlank t ↔ ¬ StartsOutside isInk t := by
  cases t with
  | nil => exact absurd runs_nil hink
  | cons x t => simp [startsOutside_cons, isInk]

def tidy (text : List Char) : List Char := [' '].intercalate (runs isInk text)

theorem tidy_nil : tidy [] = [] := by
  rw [tidy, runs_nil]
  rfl

theorem tidy_cons_blank {c : Char} (hc : isBlank c = true) (text : List Char) :
    tidy (c :: text) = tidy text := by
  rw [tidy, runs_cons_of_not (by simp [isInk, hc]), tidy]

theorem tidy_cons_joined {c d : Char} (hc : isBlank c = false) (hd : isBlank d = false)
    (text : List Char) : tidy (c :: d :: text) = c :: tidy (d :: text) := by
  have hc : isInk c = true := by simp [isInk, hc]
  have hd : isInk d = true := by simp [isInk, hd]
  obtain ⟨s, rest, hone, htwo⟩ := runs_cons_joined hc hd text
  rw [tidy, tidy, hone, htwo]
  cases rest <;> simp [List.intercalate]

theorem tidy_cons_apart {c : Char} (hc : isBlank c = false) {text : List Char}
    (ht : StartsOutside isInk text) :
    tidy (c :: text) = c :: if tidy text = [] then [] else ' ' :: tidy text := by
  have hsplit : runs isInk (c :: text) = [c] :: runs isInk text :=
    runs_cons_apart (by simp [isInk, hc]) ht
  rw [tidy, hsplit, tidy]
  cases hr : runs isInk text with
  | nil => simp [List.intercalate]
  | cons s rest =>
    have hmem : s ∈ runs isInk text := by simp [hr]
    have hs : s ≠ [] := mem_runs_ne_nil hmem
    cases rest <;> simp [List.intercalate, hs]

theorem runs_intercalate (hp : p ' ' = false) (texts : List (List Char)) :
    runs p ([' '].intercalate texts) = texts.flatMap (runs p) := by
  induction texts with
  | nil => simp [List.intercalate, runs_nil]
  | cons s texts ih =>
    cases texts with
    | nil => simp [List.intercalate]
    | cons t texts =>
      have hsplit : [' '].intercalate (s :: t :: texts) =
          s ++ ' ' :: [' '].intercalate (t :: texts) := by simp [List.intercalate]
      rw [hsplit, runs_append_cons hp, ih]
      rfl

/-- Tidying keeps the runs of every class without blanks. -/
theorem runs_tidy (hp : ∀ c, p c = true → isInk c = true) (text : List Char) :
    runs p (tidy text) = runs p text := by
  have hspace : p ' ' = false := by
    by_contra h
    exact absurd (hp ' ' (by simpa using h)) (by decide)
  rw [tidy, runs_intercalate hspace, ← runs_eq_flatMap hp]

end QueryTuning.Text
