import QueryTuning.Text.Basic

/-!
# Text patterns

A cursor is a place in a text: the characters still to come and the one just
passed. Patterns look at no more than this, so a text is never indexed.

A pattern says which stretches of text it accepts from a given place, and in
which order it prefers them. `ends` lists the places where an accepted stretch
stops, the preferred one first; it is the meaning of a pattern. `run` visits
the same places one at a time and stops at the first that its continuation
takes, which is what a search needs. `run_eq_findSome?` says that the two agree.

Words whose letters may be written in either case, runs of characters and lists
of alternatives are made of these patterns.
-/

set_option autoImplicit false

namespace QueryTuning

structure Cursor where
  last : Option Char
  rest : List Char
  deriving DecidableEq, Repr

namespace Cursor

def ofText (text : List Char) : Cursor := ⟨none, text⟩

def positionsAfter : Option Char → List Char → List Cursor
  | last, [] => [⟨last, []⟩]
  | last, c :: cs => ⟨last, c :: cs⟩ :: positionsAfter (some c) cs

def positions (c : Cursor) : List Cursor := positionsAfter c.last c.rest

def upTo (c d : Cursor) : List Char := c.rest.take (c.rest.length - d.rest.length)

end Cursor

inductive Pattern where
  | empty
  | one (accepts : Char → Bool)
  | seq (p q : Pattern)
  | alt (p q : Pattern)
  /-- As many repetitions as possible, at most `limit`. -/
  | many (limit : Option Nat) (p : Pattern)
  /-- As few repetitions as possible. -/
  | few (p : Pattern)
  /-- No text, at a place where `p` accepts nothing. -/
  | notBefore (p : Pattern)
  /-- No text, at a place not preceded by a character of the class. -/
  | notAfter (accepts : Char → Bool)
  /-- No text, between a word character and a character that is none. -/
  | boundary
  | atEnd

namespace Pattern

def atBoundary (c : Cursor) : Bool :=
  (c.last.map Text.isWord).getD false != (c.rest.head?.map Text.isWord).getD false

def manyEnds {β : Type} (step : Cursor → List Cursor) : List β → Cursor → List Cursor
  | [], c => [c]
  | _ :: budget, c => (step c).flatMap (manyEnds step budget) ++ [c]

def fewEnds {β : Type} (step : Cursor → List Cursor) : List β → Cursor → List Cursor
  | [], c => [c]
  | _ :: budget, c => c :: (step c).flatMap (fewEnds step budget)

/-- The places where an accepted stretch from `c` stops, in order of preference.
A repetition without limit has the characters still to come as its budget. -/
def ends : Pattern → Cursor → List Cursor
  | empty, c => [c]
  | one accepts, c =>
    match c.rest with
    | [] => []
    | x :: xs => if accepts x then [⟨some x, xs⟩] else []
  | seq p q, c => (ends p c).flatMap (ends q)
  | alt p q, c => ends p c ++ ends q c
  | many none p, c => manyEnds (ends p) c.rest c
  | many (some limit) p, c => manyEnds (ends p) (List.replicate limit ()) c
  | few p, c => fewEnds (ends p) c.rest c
  | notBefore p, c => if (ends p c).isEmpty then [c] else []
  | notAfter accepts, c => if (c.last.map accepts).getD false then [] else [c]
  | boundary, c => if atBoundary c then [c] else []
  | atEnd, c => if c.rest.isEmpty then [c] else []

abbrev Visit (α : Type) := Cursor → (Cursor → Option α) → Option α

def manyRun {α β : Type} (step : Visit α) : List β → Visit α
  | [], c, k => k c
  | _ :: budget, c, k => (step c fun d => manyRun step budget d k).orElse fun _ => k c

def fewRun {α β : Type} (step : Visit α) : List β → Visit α
  | [], c, k => k c
  | _ :: budget, c, k => (k c).orElse fun _ => step c fun d => fewRun step budget d k

def run {α : Type} : Pattern → Visit α
  | empty, c, k => k c
  | one accepts, c, k =>
    match c.rest with
    | [] => none
    | x :: xs => if accepts x then k ⟨some x, xs⟩ else none
  | seq p q, c, k => run p c fun d => run q d k
  | alt p q, c, k => (run p c k).orElse fun _ => run q c k
  | many none p, c, k => manyRun (run p) c.rest c k
  | many (some limit) p, c, k => manyRun (run p) (List.replicate limit ()) c k
  | few p, c, k => fewRun (run p) c.rest c k
  | notBefore p, c, k => if (ends p c).isEmpty then k c else none
  | notAfter accepts, c, k => if (c.last.map accepts).getD false then none else k c
  | boundary, c, k => if atBoundary c then k c else none
  | atEnd, c, k => if c.rest.isEmpty then k c else none

theorem findSome?_or {α β : Type} (f : α → Option β) (xs ys : List α) :
    (xs ++ ys).findSome? f = (xs.findSome? f).orElse fun _ => ys.findSome? f := by
  rw [List.findSome?_append]
  cases xs.findSome? f <;> rfl

theorem findSome?_flatMap {α β γ : Type} (f : β → Option γ) (g : α → List β) (xs : List α) :
    (xs.flatMap g).findSome? f = xs.findSome? fun x => (g x).findSome? f := by
  induction xs with
  | nil => rfl
  | cons x xs ih =>
    rw [List.flatMap_cons, findSome?_or, ih, List.findSome?_cons]
    cases (g x).findSome? f <;> rfl

theorem guard_findSome? {α : Type} (b : Bool) (c : Cursor) (k : Cursor → Option α) :
    (if b then k c else none) = (if b then [c] else []).findSome? k := by
  cases b
  · rfl
  · cases hk : k c <;> simp [hk]

def Visits {α : Type} (step : Visit α) (places : Cursor → List Cursor) : Prop :=
  ∀ c k, step c k = (places c).findSome? k

theorem manyRun_visits {α β : Type} {step : Visit α} {places : Cursor → List Cursor}
    (h : Visits step places) (budget : List β) :
    Visits (manyRun step budget) (manyEnds places budget) := by
  induction budget with
  | nil => intro c k; cases hk : k c <;> simp [manyRun, manyEnds, hk]
  | cons b budget ih =>
    intro c k
    rw [manyRun, manyEnds, findSome?_or, findSome?_flatMap, h]
    congr 1
    · exact congrArg (fun f => (places c).findSome? f) (funext fun d => ih d k)
    · funext _; cases hk : k c <;> simp [hk]

theorem fewRun_visits {α β : Type} {step : Visit α} {places : Cursor → List Cursor}
    (h : Visits step places) (budget : List β) :
    Visits (fewRun step budget) (fewEnds places budget) := by
  induction budget with
  | nil => intro c k; cases hk : k c <;> simp [fewRun, fewEnds, hk]
  | cons b budget ih =>
    intro c k
    rw [fewRun, fewEnds, List.findSome?_cons, findSome?_flatMap, h]
    have step_eq : (fun d => fewRun step budget d k) =
        fun d => (fewEnds places budget d).findSome? k := funext fun d => ih d k
    rw [step_eq]
    cases k c <;> rfl

theorem run_visits {α : Type} (p : Pattern) : Visits (run (α := α) p) (ends p) := by
  induction p with
  | empty => intro c k; cases hk : k c <;> simp [run, ends, hk]
  | one accepts =>
    intro c k
    unfold run ends
    split
    · rfl
    · split
      · rename_i x xs _ _
        cases hk : k ⟨some x, xs⟩ <;> simp [hk]
      · rfl
  | seq p q hp hq =>
    intro c k
    rw [run, ends, findSome?_flatMap, hp]
    exact congrArg (fun f => (ends p c).findSome? f) (funext fun d => hq d k)
  | alt p q hp hq =>
    intro c k
    rw [run, ends, findSome?_or, hp]
    exact congrArg (fun o => ((ends p c).findSome? k).orElse o) (funext fun _ => hq c k)
  | many limit p hp =>
    intro c k
    cases limit with
    | none => exact manyRun_visits hp c.rest c k
    | some limit => exact manyRun_visits hp (List.replicate limit ()) c k
  | few p hp => exact fun c k => fewRun_visits hp c.rest c k
  | notBefore p _ => exact fun c k => guard_findSome? (ends p c).isEmpty c k
  | notAfter accepts =>
    intro c k
    rw [run, ends]
    cases (c.last.map accepts).getD false
    · exact guard_findSome? true c k
    · rfl
  | boundary => exact fun c k => guard_findSome? (atBoundary c) c k
  | atEnd => exact fun c k => guard_findSome? c.rest.isEmpty c k

/-- A run takes the first of the places where the pattern ends that its continuation accepts. -/
theorem run_eq_findSome? {α : Type} (p : Pattern) (c : Cursor) (k : Cursor → Option α) :
    run p c k = (ends p c).findSome? k :=
  run_visits p c k

def sequence (ps : List Pattern) : Pattern := ps.foldr seq empty

def choice : List Pattern → Pattern
  | [] => notBefore empty
  | [p] => p
  | p :: ps => alt p (choice ps)

def optional (p : Pattern) : Pattern := alt p empty

def letter (c : Char) : Pattern := one fun x => Text.folded x == Text.folded c

def word (s : String) : Pattern := sequence (s.toList.map letter)

def run0 (accepts : Char → Bool) : Pattern := many none (one accepts)

def run1 (accepts : Char → Bool) : Pattern := seq (one accepts) (run0 accepts)

def blanks0 : Pattern := run0 Text.isBlank

def blanks1 : Pattern := run1 Text.isBlank

def notNewline (c : Char) : Bool := c != '\n'

def wholeWord (s : String) : Pattern := sequence [boundary, word s, boundary]

end Pattern

end QueryTuning
