import QueryTuning.Document
import QueryTuning.Number.Literal
import QueryTuning.Text.Basic

/-!
# Values of settings

A setting may be given as a text or as a value of another sort. Conversions are
generous where nothing is lost: a whole number may be written with a fraction of
zeros, and truth values count as numbers.
-/

set_option autoImplicit false

namespace QueryTuning

inductive SettingFault where
  | unknown
  | belowMinimum
  | notInteger
  | fractional
  | notFinite
  | noInteger
  | notReal
  | noReal
  | noText
  deriving DecidableEq, Repr

def SettingFault.code : SettingFault → String
  | unknown => "extra_forbidden"
  | belowMinimum => "greater_than_equal"
  | notInteger => "int_parsing"
  | fractional => "int_from_float"
  | notFinite => "finite_number"
  | noInteger => "int_type"
  | notReal => "float_parsing"
  | noReal => "float_type"
  | noText => "string_type"

namespace Field

def trimmed (text : List Char) : List Char := Literal.trimMargins text

def withoutUnderscores? (text : List Char) : Option (List Char) :=
  if text.contains '_' && text.head? != some '_' && text.getLast? != some '_' &&
      !Text.occursIn ['_', '_'] text then
    some (text.filter (· != '_'))
  else none

def withoutZeroFraction (text : List Char) : List Char :=
  let whole := text.takeWhile (· != '.')
  match text.dropWhile (· != '.') with
  | '.' :: fraction => if fraction.all (· == '0') then whole else text
  | _ => text

def withoutLeadingZeros (text : List Char) : List Char :=
  let isIdle (c : Char) : Bool := c == '0' || c == '_'
  let last := (text.takeWhile isIdle).getLast?.toList
  match text, text.dropWhile isIdle with
  | '0' :: _, [] => last
  | '0' :: _, '.' :: fraction => last ++ '.' :: fraction
  | '0' :: _, c :: rest => if c.isDigit then c :: rest else text
  | _, _ => text

def integer? (text : List Char) : Option Int := do
  let text := trimmed text
  let text := match text with
    | '+' :: '-' :: _ => text
    | '+' :: cs => cs
    | cs => cs
  let text := withoutZeroFraction (withoutLeadingZeros text)
  let text := (withoutUnderscores? text).getD text
  let (negative, digits) := match text with
    | '-' :: cs => (true, cs)
    | cs => (false, cs)
  if digits.isEmpty || !digits.all Char.isDigit then none
  else if 1 < digits.length && digits.head? = some '0' then none
  else
    let size : Int := Literal.digitsValue digits
    some (if negative then -size else size)

def plainReal? (text : List Char) : Option Binary64 :=
  if text.all fun c => c.toNat < 128 && c != '_' && !Text.isBlank c then Literal.real? text else none

def real? (text : List Char) : Option Binary64 :=
  (plainReal? (trimmed text)).or ((withoutUnderscores? text).bind plainReal?)

def toText : Document → Except SettingFault String
  | .text s => .ok s
  | _ => .error .noText

def toInteger : Document → Except SettingFault Int
  | .integer n => .ok n
  | .truth b => .ok (if b then 1 else 0)
  | .real x =>
    match x.toRat? with
    | none => .error .notFinite
    | some value => if value.den = 1 then .ok value.num else .error .fractional
  | .text s =>
    match integer? s.toList with
    | some n => .ok n
    | none => .error .notInteger
  | _ => .error .noInteger

def toReal : Document → Except SettingFault Binary64
  | .integer n => .ok (Binary64.ofRat n)
  | .truth b => .ok (if b then .finite 1 else .zero)
  | .real x => .ok x
  | .text s =>
    match real? s.toList with
    | some x => .ok x
    | none => .error .notReal
  | _ => .error .noReal

def integerFrom (minimum : Int) (d : Document) : Except SettingFault Int := do
  let n ← toInteger d
  if n < minimum then .error .belowMinimum else .ok n

def realFromZero (d : Document) : Except SettingFault Binary64 := do
  let x ← toReal d
  if x.lt .zero then .error .belowMinimum else .ok x

end Field

end QueryTuning
