import Mathlib.Data.List.Infix
import QueryTuning.Measure.Benchmark

/-!
# LIKE patterns

What the LIKE predicate makes of a pattern when the backslash is its escape character and
characters are compared exactly. An escaped text matches nothing but itself, and between two
wildcards it matches the texts in which it occurs.
-/

set_option autoImplicit false

namespace QueryTuning.Statement

open Query

structure Sign where
  char : Char
  escaped : Bool
  deriving DecidableEq

def signs : List Char → Option (List Sign)
  | [] => some []
  | ['\\'] => none
  | '\\' :: c :: pattern => (signs pattern).map (⟨c, true⟩ :: ·)
  | c :: pattern => (signs pattern).map (⟨c, false⟩ :: ·)

def isListed : List Sign → Char → Bool
  | first :: ⟨'-', false⟩ :: last :: members, c =>
    (decide (first.char ≤ c) && decide (c ≤ last.char)) || isListed members c
  | member :: members, c => c == member.char || isListed members c
  | [], _ => false

def isMember : List Sign → Char → Bool
  | ⟨'^', false⟩ :: members, c => !isListed members c
  | members, c => isListed members c

inductive PatternElement where
  | anyText
  | one (accepts : Char → Bool)

/-- The elements of a pattern, where `members` belong to a set that is open. One with a set that
is never closed is no pattern. -/
def elements : Option (List Sign) → List Sign → Option (List PatternElement)
  | none, [] => some []
  | some _, [] => none
  | none, sign :: pattern =>
    if sign = ⟨'%', false⟩ then (elements none pattern).map (.anyText :: ·)
    else if sign = ⟨'_', false⟩ then (elements none pattern).map (.one (fun _ => true) :: ·)
    else if sign = ⟨'[', false⟩ then elements (some []) pattern
    else (elements none pattern).map (.one (· == sign.char) :: ·)
  | some members, sign :: pattern =>
    if sign = ⟨']', false⟩ then (elements none pattern).map (.one (isMember members) :: ·)
    else elements (some (members ++ [sign])) pattern

def fits : List PatternElement → List Char → Bool
  | [], text => text.isEmpty
  | .anyText :: pattern, text => text.tails.any fun rest => fits pattern rest
  | .one _ :: _, [] => false
  | .one accepts :: pattern, c :: text => accepts c && fits pattern text

def isLike (text pattern : List Char) : Bool :=
  ((signs pattern).bind (elements none)).any fun pattern => fits pattern text

variable {text pattern : List Char}

theorem signs_escape (c : Char) (pattern : List Char) :
    signs ('\\' :: c :: pattern) = (signs pattern).map (⟨c, true⟩ :: ·) := by
  rw [signs]

theorem signs_plain {c : Char} (hc : c ≠ '\\') (pattern : List Char) :
    signs (c :: pattern) = (signs pattern).map (⟨c, false⟩ :: ·) := by
  rw [signs]
  · rintro rfl
    exact absurd rfl hc
  · rintro _ _ rfl
    exact absurd rfl hc

/-- A sign that makes an element of its own goes in front of what the rest of the pattern means. -/
theorem isLike_cons {first : List Char} {sign : Sign} {element : PatternElement}
    (hsigns : signs (first ++ pattern) = (signs pattern).map (sign :: ·))
    (helements : ∀ signs,
      elements none (sign :: signs) = (elements none signs).map (element :: ·)) :
    isLike text (first ++ pattern) =
      ((signs pattern).bind (elements none)).any fun rest => fits (element :: rest) text := by
  rw [isLike, hsigns]
  cases signs pattern with
  | none => rfl
  | some signs =>
    rw [Option.map_some, Option.bind_some, Option.bind_some, helements, Option.any_map]

theorem isLike_nil : isLike text [] = true ↔ text = [] := by
  simp [isLike, signs, elements, fits]

theorem isLike_percent :
    isLike text ('%' :: pattern) = true ↔ ∃ rest, rest <:+ text ∧ isLike rest pattern = true := by
  have hmeans : isLike text (['%'] ++ pattern) =
      ((signs pattern).bind (elements none)).any fun rest => fits (.anyText :: rest) text :=
    isLike_cons (signs_plain (by decide) pattern) fun _ => by rw [elements, if_pos rfl]
  rw [List.singleton_append] at hmeans
  rw [hmeans]
  cases h : (signs pattern).bind (elements none) <;> simp [isLike, h, fits]

/-- A character of an escaped text is never more than itself. -/
theorem isLike_escaped_cons {c : Char} :
    isLike text (likeEscaped [c] ++ pattern) = true ↔
      ∃ rest, text = c :: rest ∧ isLike rest pattern = true := by
  have hsigns : signs (likeEscaped [c] ++ pattern) =
      (signs pattern).map (⟨c, isLikeSpecial c⟩ :: ·) := by
    by_cases hc : isLikeSpecial c = true
    · simp [likeEscaped, hc, signs_escape]
    · have hplain : c ≠ '\\' := by
        rintro rfl
        exact hc rfl
      simp [likeEscaped, hc, signs_plain hplain]
  have hliteral : ∀ signs, elements none (⟨c, isLikeSpecial c⟩ :: signs) =
      (elements none signs).map (.one (· == c) :: ·) := by
    intro signs
    have hmark : ∀ mark, isLikeSpecial mark = true →
        Sign.mk c (isLikeSpecial c) ≠ ⟨mark, false⟩ := by
      rintro mark hspecial h
      obtain ⟨rfl, hplain⟩ := Sign.mk.inj h
      simp [hspecial] at hplain
    rw [elements, if_neg (hmark '%' rfl), if_neg (hmark '_' rfl), if_neg (hmark '[' rfl)]
  rw [isLike_cons hsigns hliteral]
  cases text <;> cases h : (signs pattern).bind (elements none) <;> simp [isLike, h, fits]

theorem isLike_escaped_append (s : List Char) :
    isLike text (likeEscaped s ++ pattern) = true ↔
      ∃ rest, text = s ++ rest ∧ isLike rest pattern = true := by
  induction s generalizing text with
  | nil => simp [likeEscaped]
  | cons c s ih =>
    have hcons : likeEscaped (c :: s) ++ pattern =
        likeEscaped [c] ++ (likeEscaped s ++ pattern) := by simp [likeEscaped]
    rw [hcons, isLike_escaped_cons]
    simp [ih]

theorem isLike_escaped (s : List Char) : isLike text (likeEscaped s) = true ↔ text = s := by
  have h : isLike text (likeEscaped s ++ []) = true ↔
      ∃ rest, text = s ++ rest ∧ isLike rest [] = true := isLike_escaped_append s
  simpa [isLike_nil] using h

theorem isLike_anywhere (s : List Char) :
    isLike text ('%' :: (likeEscaped s ++ ['%'])) = true ↔ s <:+: text := by
  have hanything : ∀ rest, isLike rest ['%'] = true := fun rest =>
    isLike_percent.mpr ⟨[], rest.nil_suffix, isLike_nil.mpr rfl⟩
  simp only [isLike_percent, isLike_escaped_append, hanything, and_true]
  constructor
  · rintro ⟨rest, ⟨before, hbefore⟩, after, rfl⟩
    exact ⟨before, after, by rw [List.append_assoc, hbefore]⟩
  · rintro ⟨before, after, rfl⟩
    exact ⟨s ++ after, ⟨before, by rw [List.append_assoc]⟩, after, rfl⟩

/-- The pattern of a text matches this text and no other. The one with which the statistics of a
statement are looked up matches the texts in which the statement occurs. -/
theorem likePattern_exact (sql : String) :
    (∀ text : String, isLike text.toList (likePattern sql).toList = true ↔ text = sql) ∧
      ∃ pattern : String,
        Measure.statisticsCall sql = .fetchAll Measure.queryStatisticsSql [.text pattern] ∧
        pattern = "%" ++ likePattern sql ++ "%" ∧
        ∀ text : String,
          isLike text.toList pattern.toList = true ↔ sql.toList <:+: text.toList := by
  have hpattern : (likePattern sql).toList = likeEscaped sql.toList := by simp [likePattern]
  refine ⟨fun text => ?_, _, rfl, rfl, fun text => ?_⟩
  · rw [hpattern, isLike_escaped, String.toList_inj]
  · have hwhole : ("%" ++ likePattern sql ++ "%").toList =
        '%' :: (likeEscaped sql.toList ++ ['%']) := by
      rw [String.toList_append, String.toList_append, hpattern]
      rfl
    rw [hwhole, isLike_anywhere]

example : isLike "axc".toList "a_c".toList = true ∧
    isLike "axc".toList (likePattern "a_c").toList = false := by decide

end QueryTuning.Statement
