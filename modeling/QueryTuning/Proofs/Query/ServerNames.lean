import QueryTuning.Proofs.Text.Ascii
import QueryTuning.Proofs.Text.Runs

/-!
# Names of the server

Two at signs and a word are a name of the server. Where neither an at sign nor a word
goes across a place, the names before and after it are found apart, and names that
differ in the case of letters only stay so.
-/

set_option autoImplicit false

namespace QueryTuning.Query

open Text

def continuesName (c : Char) : Bool := c == '@' || isWord c

def serverNameAt : List Char → Option (List Char)
  | c :: d :: x :: text =>
    if c = '@' ∧ d = '@' ∧ isWord x then some (x :: text.takeWhile isWord) else none
  | _ => none

def serverNames (text : List Char) : List (List Char) := text.tails.filterMap serverNameAt

variable {s t : List Char} {c : Char}

theorem serverNames_nil : serverNames [] = [] := rfl

theorem serverNames_cons (c : Char) (text : List Char) :
    serverNames (c :: text) = (serverNameAt (c :: text)).toList ++ serverNames text := by
  rw [serverNames, List.tails, List.filterMap_cons]
  cases serverNameAt (c :: text) <;> rfl

theorem serverNameAt_of_ne {text : List Char} (hc : c ≠ '@') :
    serverNameAt (c :: text) = none := by
  unfold serverNameAt
  split <;> simp_all

theorem serverNames_cons_of_ne (hc : c ≠ '@') (text : List Char) :
    serverNames (c :: text) = serverNames text := by
  rw [serverNames_cons, serverNameAt_of_ne hc]
  rfl

theorem serverNames_append_of_not_mem (hs : '@' ∉ s) (t : List Char) :
    serverNames (s ++ t) = serverNames t := by
  induction s with
  | nil => rfl
  | cons c s ih =>
    rw [List.mem_cons, not_or] at hs
    rw [List.cons_append, serverNames_cons_of_ne (Ne.symm hs.1), ih hs.2]

/-- One at sign introduces no name of the server. -/
theorem serverNames_single (hc : c ≠ '@') (text : List Char) :
    serverNames ('@' :: c :: text) = serverNames (c :: text) := by
  have hnone : serverNameAt ('@' :: c :: text) = none := by
    unfold serverNameAt
    split <;> simp_all
  rw [serverNames_cons, hnone]
  rfl

theorem takeWhile_append_of_startsOutside {p : Char → Bool} (ht : StartsOutside p t) :
    (s ++ t).takeWhile p = s.takeWhile p := by
  induction s with
  | nil => cases t <;> simp_all [startsOutside_cons]
  | cons c s ih => simp [List.takeWhile_cons, ih]

theorem serverNameAt_append (hs : s ≠ []) (ht : StartsOutside continuesName t) :
    serverNameAt (s ++ t) = serverNameAt s := by
  have hword : StartsOutside isWord t := ht.mono fun c hc => by simp [continuesName, hc]
  cases t with
  | nil => rw [List.append_nil]
  | cons c t =>
    obtain ⟨hat, hc⟩ : c ≠ '@' ∧ isWord c = false := by
      simpa [startsOutside_cons, continuesName] using ht
    match s, hs with
    | [a], _ => cases t <;> simp [serverNameAt, hat]
    | [a, b], _ => simp [serverNameAt, hc]
    | a :: b :: x :: s, _ => simp [serverNameAt, takeWhile_append_of_startsOutside hword]

theorem serverNames_append_of_startsOutside (ht : StartsOutside continuesName t) :
    serverNames (s ++ t) = serverNames s ++ serverNames t := by
  induction s with
  | nil => rfl
  | cons c s ih =>
    rw [List.cons_append, serverNames_cons, ih, serverNames_cons, List.append_assoc]
    rw [← List.cons_append, serverNameAt_append (by simp) ht]

/-- No name goes across a place with a character of no name before or after it. -/
theorem serverNames_append (h : EndsOutside continuesName s ∨ StartsOutside continuesName t) :
    serverNames (s ++ t) = serverNames s ++ serverNames t := by
  rcases h with h | h
  · rcases List.eq_nil_or_concat s with rfl | ⟨s, c, rfl⟩
    · rfl
    · rw [List.concat_eq_append] at h ⊢
      have hc : continuesName c = false := endsOutside_append_singleton.mp h
      have hat : c ≠ '@' := by
        rintro rfl
        simp [continuesName] at hc
      have hcut : ∀ t, serverNames (s ++ c :: t) = serverNames s ++ serverNames t := by
        intro t
        rw [serverNames_append_of_startsOutside (startsOutside_cons.mpr hc),
          serverNames_cons_of_ne hat]
      rw [List.append_assoc, List.singleton_append, hcut, hcut, serverNames_nil, List.append_nil]
  · exact serverNames_append_of_startsOutside h

/-- Between two texts a gap without at signs keeps their names apart. -/
theorem serverNames_gap {gap : List Char} (hne : gap ≠ [])
    (houtside : StartsOutside continuesName gap) (hat : '@' ∉ gap) (s t : List Char) :
    serverNames (s ++ (gap ++ t)) = serverNames s ++ serverNames t := by
  have hstart : StartsOutside continuesName (gap ++ t) := by
    obtain ⟨c, gap, rfl⟩ := List.exists_cons_of_ne_nil hne
    exact startsOutside_cons.mpr (startsOutside_cons.mp houtside)
  rw [serverNames_append (.inr hstart), serverNames_append_of_not_mem hat]

/-- Ignoring case before or after the names are found makes no difference. -/
theorem serverNames_folded (text : List Char) :
    serverNames (text.map folded) = (serverNames text).map (List.map folded) := by
  have hat : ∀ c, folded c = '@' ↔ c = '@' := fun c =>
    folded_eq_mark (x := c) (c := '@') (by decide)
  have hword : isWord ∘ folded = isWord := funext isWord_any_case
  have hfirst : ∀ text, serverNameAt (text.map folded) =
      (serverNameAt text).map (List.map folded) := by
    intro text
    match text with
    | [] | [_] | [_, _] => rfl
    | c :: d :: x :: text =>
      simp only [List.map_cons, serverNameAt, hat, isWord_any_case, List.takeWhile_map, hword]
      split <;> rfl
  induction text with
  | nil => rfl
  | cons c text ih =>
    rw [List.map_cons, serverNames_cons, ih, serverNames_cons, List.map_append, ← List.map_cons,
      hfirst]
    cases serverNameAt (c :: text) <;> rfl

end QueryTuning.Query
