import QueryTuning.Number.Binary64

/-!
# Numbers as text

Two written forms. The short form has the fewest digits that read back as the
same number, and of those the nearest; it is positional for decimal exponents
from -4 to 15 and scientific outside. The fixed form has a given number of
places, a half going to the even neighbour.
-/

set_option autoImplicit false

namespace QueryTuning.Binary64

def tenPower (e : Int) : Rat := if 0 ≤ e then (10 : Rat) ^ e.toNat else 1 / (10 : Rat) ^ (-e).toNat

def digitCount (n : Nat) : Nat := (Nat.toDigits 10 n).length

def floorLog10 (x : Rat) : Int :=
  let e : Int := (digitCount x.num.natAbs : Int) - (digitCount x.den : Int)
  if tenPower e ≤ x then e else e - 1

structure Decimal where
  digits : Nat
  exponent : Int
  deriving DecidableEq, Repr

def Decimal.value (d : Decimal) : Rat := (d.digits : Rat) * tenPower d.exponent

/-- The neighbours of a positive value among the decimals of `count` digits, if one of
them reads back as the value; the nearer one if both do. -/
def decimalWith? (x : Rat) (count : Nat) : Option Decimal :=
  let exponent := floorLog10 x - (count : Int) + 1
  let scaled := x / tenPower exponent
  let below : Decimal := ⟨scaled.floor.toNat, exponent⟩
  let above : Decimal := ⟨scaled.floor.toNat + 1, exponent⟩
  let readsBack (d : Decimal) : Bool := d.digits ≠ 0 && ofRat d.value = finite x
  let part := scaled - scaled.floor
  if readsBack below && (!readsBack above || part ≤ 1 / 2) then some below
  else if readsBack above then some above
  else none

def Decimal.stripZeros : (fuel : Nat) → Decimal → Decimal
  | 0, d => d
  | fuel + 1, d =>
    if d.digits % 10 = 0 ∧ d.digits ≠ 0 then
      Decimal.stripZeros fuel ⟨d.digits / 10, d.exponent + 1⟩
    else d

def shortest (x : Rat) : Decimal :=
  (((List.range 17).findSome? fun n => decimalWith? x (n + 1)).getD ⟨0, 0⟩).stripZeros 20

def zeros (n : Nat) : String := String.ofList (List.replicate n '0')

def Decimal.text (d : Decimal) : String :=
  let digits := toString d.digits
  let point : Int := digits.length + d.exponent
  if 16 < point ∨ point ≤ -4 then
    let exponent := point - 1
    let size := exponent.natAbs
    let head := String.ofList (digits.toList.take 1)
    let tail := String.ofList (digits.toList.drop 1)
    head ++ (if tail.isEmpty then "" else "." ++ tail) ++ "e" ++
      (if exponent < 0 then "-" else "+") ++ (if size < 10 then "0" else "") ++ toString size
  else if point ≤ 0 then "0." ++ zeros (-point).toNat ++ digits
  else if 0 ≤ d.exponent then digits ++ zeros d.exponent.toNat ++ ".0"
  else
    String.ofList (digits.toList.take point.toNat) ++ "." ++
      String.ofList (digits.toList.drop point.toNat)

def text : Binary64 → String
  | nan => "nan"
  | infinite negative => if negative then "-inf" else "inf"
  | negativeZero => "-0.0"
  | finite x =>
    if x = 0 then "0.0"
    else if x < 0 then "-" ++ (shortest (-x)).text
    else (shortest x).text

def fixedDigits (places : Nat) (x : Rat) : String :=
  let n := (roundHalfEven (x * (10 : Rat) ^ places)).toNat
  if places = 0 then toString n
  else
    let digits := toString n
    let padded := zeros (places + 1 - digits.length) ++ digits
    let whole := padded.length - places
    String.ofList (padded.toList.take whole) ++ "." ++ String.ofList (padded.toList.drop whole)

def fixed (places : Nat) (x : Binary64) : String :=
  match x.toRat? with
  | none => x.text
  | some value =>
    (if x.isNegative then "-" else "") ++ fixedDigits places (if value < 0 then -value else value)

end QueryTuning.Binary64
