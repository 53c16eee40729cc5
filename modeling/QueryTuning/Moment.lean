import QueryTuning.Failure

/-!
# Dates with times

A calendar date with a time of day to the microsecond, and possibly the
distance of its clock from universal time. Only moments of one sort, with or
without that distance, can be compared.
-/

set_option autoImplicit false

namespace QueryTuning

structure Moment where
  year : Nat
  month : Nat
  day : Nat
  hour : Nat
  minute : Nat
  second : Nat
  microsecond : Nat
  /-- Seconds ahead of universal time, if known. -/
  offset : Option Int
  deriving DecidableEq, Repr

namespace Moment

def padded (width n : Nat) : String :=
  let digits := toString n
  String.ofList (List.replicate (width - digits.length) '0') ++ digits

def offsetText (seconds : Int) : String :=
  let size := seconds.natAbs
  (if seconds < 0 then "-" else "+") ++ padded 2 (size / 3600) ++ ":" ++
    padded 2 (size / 60 % 60) ++ (if size % 60 = 0 then "" else ":" ++ padded 2 (size % 60))

def text (mark : String) (m : Moment) : String :=
  padded 4 m.year ++ "-" ++ padded 2 m.month ++ "-" ++ padded 2 m.day ++ mark ++
    padded 2 m.hour ++ ":" ++ padded 2 m.minute ++ ":" ++ padded 2 m.second ++
    (if m.microsecond = 0 then "" else "." ++ padded 6 m.microsecond) ++
    ((m.offset.map offsetText).getD "")

def daysBefore (year : Nat) : Nat :=
  let y := year - 1
  365 * y + y / 4 - y / 100 + y / 400

def isLeap (year : Nat) : Bool := year % 4 = 0 && (year % 100 ≠ 0 || year % 400 = 0)

def monthLengths (year : Nat) : List Nat :=
  [31, if isLeap year then 29 else 28, 31, 30, 31, 30, 31, 31, 30, 31, 30, 31]

def dayNumber (m : Moment) : Nat :=
  ((monthLengths m.year).take (m.month - 1)).foldl Nat.add (daysBefore m.year) + m.day

def instant (m : Moment) : Int :=
  let days : Int := m.dayNumber
  let seconds : Int := ((days * 24 + m.hour) * 60 + m.minute) * 60 + m.second - m.offset.getD 0
  seconds * 1000000 + m.microsecond

def lt? (a b : Moment) : Except ValueFault Bool :=
  if a.offset.isSome = b.offset.isSome then .ok (a.instant < b.instant) else .error .mixedClocks

def latest (first : Moment) (others : List Moment) : Except ValueFault Moment :=
  others.foldlM (fun best m => return if ← best.lt? m then m else best) first

end Moment

end QueryTuning
