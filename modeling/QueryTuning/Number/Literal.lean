import QueryTuning.Number.Binary64
import QueryTuning.Text.Basic

/-!
# Reading numbers

Decimal literals with blanks around them. Digits may be of any script, and a
single underscore may stand between two digits. A real literal may have a
fraction and an exponent, or be one of the words for infinity and for no number.
-/

set_option autoImplicit false

namespace QueryTuning.Literal

def isMargin (c : Char) : Bool :=
  Text.isBlank c && !(0x1C ≤ c.toNat && c.toNat ≤ 0x1F)

def trimMargins (text : List Char) : List Char :=
  ((text.dropWhile isMargin).reverse.dropWhile isMargin).reverse

def plainDigit (c : Char) : Char :=
  match Text.digitValue? c with
  | some n => Char.ofNat ('0'.toNat + n)
  | none => c

def dropUnderscores : (afterDigit : Bool) → List Char → Option (List Char)
  | _, [] => some []
  | afterDigit, '_' :: cs =>
    match cs with
    | d :: _ => if afterDigit && d.isDigit then dropUnderscores false cs else none
    | [] => none
  | _, c :: cs => (dropUnderscores c.isDigit cs).map (c :: ·)

def plain? (text : List Char) : Option (List Char) :=
  dropUnderscores false ((trimMargins text).map plainDigit)

def splitSign : List Char → Bool × List Char
  | '-' :: cs => (true, cs)
  | '+' :: cs => (false, cs)
  | cs => (false, cs)

def digitsValue (digits : List Char) : Nat :=
  digits.foldl (fun n c => 10 * n + (c.toNat - '0'.toNat)) 0

def maxIntegerDigits : Nat := 4300

def integer? (text : List Char) : Option Int := do
  let (negative, digits) := splitSign (← plain? text)
  if digits.isEmpty || !digits.all Char.isDigit || maxIntegerDigits < digits.length then none
  else if negative then some (-(digitsValue digits : Int))
  else some (digitsValue digits : Int)

/-- The number `digits` times ten to the power `exponent`. Far beyond the format the
answer is known without computing the power. -/
def scaled (negative : Bool) (digits : Nat) (exponent : Int) : Binary64 :=
  let size : Int := (Nat.toDigits 10 digits).length
  if digits = 0 then Binary64.signedZero negative
  else if 400 < size + exponent then .infinite negative
  else if size + exponent < -400 then Binary64.signedZero negative
  else
    let value : Rat :=
      if 0 ≤ exponent then (digits : Rat) * (10 : Rat) ^ exponent.toNat
      else (digits : Rat) / (10 : Rat) ^ (-exponent).toNat
    Binary64.ofRat (if negative then -value else value)

def exponent? (text : List Char) : Option Int :=
  let (negative, digits) := splitSign text
  if digits.isEmpty || !digits.all Char.isDigit then none
  else if negative then some (-(digitsValue digits : Int))
  else some (digitsValue digits : Int)

def decimal? (negative : Bool) (text : List Char) : Option Binary64 :=
  let whole := text.takeWhile Char.isDigit
  let afterWhole := text.dropWhile Char.isDigit
  let (fraction, afterFraction) :=
    match afterWhole with
    | '.' :: cs => (cs.takeWhile Char.isDigit, cs.dropWhile Char.isDigit)
    | cs => ([], cs)
  if whole.isEmpty && fraction.isEmpty then none
  else
    let number (exponent : Int) : Binary64 :=
      scaled negative (digitsValue (whole ++ fraction)) (exponent - fraction.length)
    match afterFraction with
    | [] => some (number 0)
    | c :: cs => if c = 'e' ∨ c = 'E' then (exponent? cs).map number else none

def real? (text : List Char) : Option Binary64 := do
  let (negative, body) := splitSign (← plain? text)
  let folded := String.ofList (body.map Char.toLower)
  if folded == "inf" || folded == "infinity" then some (.infinite negative)
  else if folded == "nan" then some .nan
  else decimal? negative body

end QueryTuning.Literal
