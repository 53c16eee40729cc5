import QueryTuning.Failure

/-!
# Double-precision numbers

A number is a rational together with the special values of the binary64 format.
Every operation computes the exact result and rounds it once, to the nearest
number with 53 significant bits and an exponent of at least -1074, a tie going
to the even neighbour. Nothing here depends on machine arithmetic, so the order
and the bounds of results can be reasoned about.
-/

set_option autoImplicit false

namespace QueryTuning

inductive Binary64 where
  | nan
  | infinite (negative : Bool)
  | negativeZero
  | finite (value : Rat)
  deriving DecidableEq

namespace Binary64

def zero : Binary64 := finite 0

instance : Inhabited Binary64 := ⟨zero⟩

def twoPower (e : Int) : Rat := if 0 ≤ e then (2 : Rat) ^ e.toNat else 1 / (2 : Rat) ^ (-e).toNat

def floorLog2 (x : Rat) : Int :=
  let e : Int := (x.num.natAbs.log2 : Int) - (x.den.log2 : Int)
  if twoPower e ≤ x then e else e - 1

def roundHalfEven (x : Rat) : Int :=
  let below := x.floor
  let part := x - below
  if part < 1 / 2 then below
  else if 1 / 2 < part then below + 1
  else if below % 2 = 0 then below
  else below + 1

def spacing (x : Rat) : Int := max (floorLog2 x - 52) (-1074)

def onGrid (x : Rat) : Rat :=
  let unit := twoPower (spacing x)
  (roundHalfEven (x / unit) : Rat) * unit

def limit : Rat := twoPower 1024

def ofRat (x : Rat) : Binary64 :=
  if x = 0 then zero
  else
    let size := onGrid (if x < 0 then -x else x)
    if limit ≤ size then infinite (x < 0)
    else if size = 0 then (if x < 0 then negativeZero else zero)
    else finite (if x < 0 then -size else size)

def ofInt? (n : Int) : Except ValueFault Binary64 :=
  match ofRat n with
  | infinite _ => .error .integerTooLarge
  | x => .ok x

def ofNat (n : Nat) : Binary64 := ofRat (n : Rat)

def toRat? : Binary64 → Option Rat
  | nan => none
  | infinite _ => none
  | negativeZero => some 0
  | finite x => some x

def isNaN (x : Binary64) : Bool := x == nan

def isZero (x : Binary64) : Bool := x.toRat? == some 0

def isNegative : Binary64 → Bool
  | nan => false
  | infinite negative => negative
  | negativeZero => true
  | finite x => x < 0

def neg : Binary64 → Binary64
  | nan => nan
  | infinite negative => infinite (!negative)
  | negativeZero => zero
  | finite x => if x = 0 then negativeZero else finite (-x)

def add : Binary64 → Binary64 → Binary64
  | nan, _ => nan
  | _, nan => nan
  | infinite s, infinite t => if s = t then infinite s else nan
  | infinite s, _ => infinite s
  | _, infinite t => infinite t
  | negativeZero, negativeZero => negativeZero
  | x, y => ofRat (x.toRat?.getD 0 + y.toRat?.getD 0)

def sub (x y : Binary64) : Binary64 := add x (neg y)

def signedZero (negative : Bool) : Binary64 := if negative then negativeZero else zero

def mul : Binary64 → Binary64 → Binary64
  | nan, _ => nan
  | _, nan => nan
  | x, y =>
    let negative := x.isNegative != y.isNegative
    match x.toRat?, y.toRat? with
    | some a, some b => if a = 0 ∨ b = 0 then signedZero negative else ofRat (a * b)
    | some a, none => if a = 0 then nan else infinite negative
    | none, some b => if b = 0 then nan else infinite negative
    | none, none => infinite negative

def div : Binary64 → Binary64 → Binary64
  | nan, _ => nan
  | _, nan => nan
  | x, y =>
    let negative := x.isNegative != y.isNegative
    match x.toRat?, y.toRat? with
    | some a, some b =>
      if b = 0 then (if a = 0 then nan else infinite negative)
      else if a = 0 then signedZero negative
      else ofRat (a / b)
    | some _, none => signedZero negative
    | none, some _ => infinite negative
    | none, none => nan

def lt : Binary64 → Binary64 → Bool
  | nan, _ => false
  | _, nan => false
  | infinite s, infinite t => s && !t
  | infinite s, _ => s
  | _, infinite t => !t
  | x, y => x.toRat?.getD 0 < y.toRat?.getD 0

def le (x y : Binary64) : Bool :=
  match x, y with
  | nan, _ => false
  | _, nan => false
  | x, y => !lt y x

def eq (x y : Binary64) : Bool := le x y && le y x

def truncate : Binary64 → Except ValueFault Int
  | nan => .error .undefinedInteger
  | infinite _ => .error .infiniteInteger
  | negativeZero => .ok 0
  | finite x => .ok (x.num.tdiv x.den)

end Binary64

end QueryTuning
