import QueryTuning.Number.Binary64

/-!
# Means

The mean of a list is its exact sum, rounded once and divided by the count. A
sum that leaves the format on the way is an overflow. Special values absorb the
finite ones around them; infinities of both signs have no mean.
-/

set_option autoImplicit false

namespace QueryTuning.Binary64

structure SumState where
  total : Rat
  specials : List Binary64

def SumState.add (s : SumState) (x : Binary64) : Except ValueFault SumState :=
  match x.toRat? with
  | none => .ok ⟨0, s.specials ++ [x]⟩
  | some value =>
    match ofRat (s.total + value) with
    | infinite _ => .error .sumTooLarge
    | _ => .ok ⟨s.total + value, s.specials⟩

def sum (xs : List Binary64) : Except ValueFault Binary64 := do
  let s ← xs.foldlM SumState.add ⟨0, []⟩
  if s.specials.contains (infinite true) && s.specials.contains (infinite false) then
    .error .undefinedSum
  else if s.specials.contains nan then .ok nan
  else .ok (s.specials.head?.getD (ofRat s.total))

def mean (xs : List Binary64) : Except ValueFault Binary64 :=
  (sum xs).map fun total => div total (ofNat xs.length)

end QueryTuning.Binary64
