import QueryTuning.Text.CaseData
import QueryTuning.Text.Basic

/-!
# Upper and lower case

Full case mappings. Upper-casing goes character by character, so it respects
concatenation. Lower-casing does so too except for the capital sigma, which
becomes a final sigma at the end of a word.
-/

set_option autoImplicit false

namespace QueryTuning.Text

namespace CaseRun

def contains (r : CaseRun) (code : Nat) : Bool :=
  r.first ≤ code && code ≤ r.last && (code - r.first) % r.step == 0

def apply (r : CaseRun) (code : Nat) : Char := Char.ofNat (code + r.shift).toNat

end CaseRun

def mapCase (runs : Array CaseRun) (spelled : Array (Nat × List Nat)) (c : Char) : List Char :=
  match spelled.find? fun entry => entry.1 == c.toNat with
  | some (_, codes) => codes.map Char.ofNat
  | none =>
    match runs.find? fun r => r.contains c.toNat with
    | some r => [r.apply c.toNat]
    | none => [c]

def upperChar (c : Char) : List Char :=
  if c.toNat < 128 then [c.toUpper] else mapCase upperRuns upperSpelled c

def upper (text : List Char) : List Char := text.flatMap upperChar

theorem upper_append (s t : List Char) : upper (s ++ t) = upper s ++ upper t :=
  List.flatMap_append

def lowerChar (c : Char) : List Char :=
  if c.toNat < 128 then [c.toLower] else mapCase lowerRuns lowerSpelled c

def casedAhead : List Char → Bool
  | [] => false
  | c :: cs => if caseIgnorable c then casedAhead cs else cased c
where
  caseIgnorable (c : Char) : Bool := caseIgnorableRanges.contains c
  cased (c : Char) : Bool := casedRanges.contains c

def lowerAfter : (before : List Char) → List Char → List Char
  | _, [] => []
  | before, c :: cs =>
    (if c = 'Σ' then [if casedAhead before && !casedAhead cs then 'ς' else 'σ']
      else lowerChar c) ++ lowerAfter (c :: before) cs

def lower (text : List Char) : List Char := lowerAfter [] text

end QueryTuning.Text

namespace QueryTuning

def upperCase (s : String) : String := String.ofList (Text.upper s.toList)

def lowerCase (s : String) : String := String.ofList (Text.lower s.toList)

end QueryTuning
