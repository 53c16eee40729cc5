import QueryTuning.Session.Run
import QueryTuning.Text.Basic

/-!
# Scripted servers

A script is a list of rules. A call is answered by the first rule that applies
to it; each use of a rule takes its next reply, and the last one repeats. A call
to which no rule applies gets an empty reply.
-/

set_option autoImplicit false

namespace QueryTuning.Script

inductive CallKind where
  | openSession
  | fetchAll
  | execute
  | estimatedPlan
  | actualPlan
  | close
  deriving DecidableEq, Repr

namespace CallKind

def of : Call → CallKind
  | .openSession _ => openSession
  | .fetchAll .. => fetchAll
  | .execute _ => execute
  | .fetchPlan _ .estimated => estimatedPlan
  | .fetchPlan _ .actual => actualPlan
  | .close => close

end CallKind

def searchedText : Call → String
  | .openSession connection => connection
  | .fetchAll sql _ => sql
  | .execute sql => sql
  | .fetchPlan sql _ => sql
  | .close => ""

def parameterText : Call → String
  | .fetchAll _ parameters => "\x00".intercalate (parameters.map Cell.display)
  | _ => ""

structure Reply where
  /-- Seconds until the reply; none if it never comes. -/
  delay : Option Binary64
  failure : Option Failure
  rows : List Row
  plan : Option String

namespace Reply

def empty : Reply := ⟨some .zero, none, [], none⟩

def answer (r : Reply) : (c : Call) → c.Answer
  | .openSession _ => ()
  | .fetchAll .. => r.rows
  | .execute _ => ()
  | .fetchPlan .. => r.plan
  | .close => ()

def response (r : Reply) (c : Call) : Response c :=
  match r.failure with
  | some failure => ⟨r.delay, .error failure⟩
  | none => ⟨r.delay, .ok (r.answer c)⟩

end Reply

structure Rule where
  kind : Option CallKind
  /-- Stands in the text of the call. -/
  fragment : String
  /-- Stands in its parameters. -/
  parameter : String
  replies : List Reply

namespace Rule

def appliesTo (r : Rule) (c : Call) : Bool :=
  (r.kind.all fun kind => kind = CallKind.of c) &&
    Text.occursIn r.fragment.toList (searchedText c).toList &&
    Text.occursIn r.parameter.toList (parameterText c).toList

def reply (r : Rule) (uses : Nat) : Reply :=
  (r.replies[uses]?.or r.replies.getLast?).getD .empty

end Rule

abbrev Progress := List (Rule × Nat)

def begin (rules : List Rule) : Progress := rules.map fun r => (r, 0)

def respond : Progress → (c : Call) → Response c × Progress
  | [], c => (Reply.empty.response c, [])
  | (r, uses) :: rest, c =>
    if r.appliesTo c then ((r.reply uses).response c, (r, uses + 1) :: rest)
    else
      let (response, rest) := respond rest c
      (response, (r, uses) :: rest)

def server : Server Progress := ⟨respond⟩

def later (x : Binary64) : Nat → Binary64
  | 0 => x
  | n + 1 => (later x n).add (.finite 1)

def clock (readings : List Binary64) (n : Nat) : Binary64 :=
  match readings[n]?, readings.getLast? with
  | some x, _ => x
  | none, some last => later last (n + 1 - readings.length)
  | none, none => later .zero n

end QueryTuning.Script
