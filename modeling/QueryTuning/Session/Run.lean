import QueryTuning.Session.Interaction

/-!
# Running an interaction

A server answers a call with a response that may take its time. Waiting is the
only thing that takes time, so a cancellation that is due strikes the first call
still waited for at that moment. A wait that reaches its limit expires, and a
limit without any time lets no call begin. A wait without end or limit is
counted as cancelled.
-/

set_option autoImplicit false

namespace QueryTuning

structure Response (c : Call) where
  /-- Seconds until the answer; none if it never comes. -/
  delay : Option Binary64
  outcome : c.Outcome

structure Server (σ : Type) where
  respond : σ → (c : Call) → Response c × σ

structure Surroundings (σ ν : Type) where
  server : Server σ
  clock : Nat → ν

structure World (σ : Type) where
  server : σ
  /-- How often the clock was read. -/
  readings : Nat
  /-- Seconds spent waiting. -/
  elapsed : Binary64
  /-- When the task will be cancelled. -/
  cancelAt : Option Binary64

inductive Event where
  | called (stage : Stage) (c : Call) (failure : Option Failure)
  | remarked (r : Remark)
  deriving DecidableEq

namespace Event

def call? : Event → Option Call
  | called _ c _ => some c
  | remarked _ => none

def remark? : Event → Option Remark
  | called .. => none
  | remarked r => some r

end Event

inductive Ending where
  | answered (after : Binary64)
  | expired (after : Binary64)
  | never
  deriving DecidableEq

namespace Ending

def of (limit : TimeLimit) (delay : Option Binary64) : Ending :=
  match limit, delay with
  | some l, some d => if l.le d then expired l else answered d
  | some l, none => expired l
  | none, some d => answered d
  | none, none => never

def duration? : Ending → Option Binary64
  | answered after | expired after => some after
  | never => none

end Ending

namespace World

variable {σ : Type}

def isStruck (w : World σ) (ending : Ending) : Bool :=
  match w.cancelAt, ending.duration? with
  | some due, some after => Binary64.zero.lt after && due.le (w.elapsed.add after)
  | some _, none => true
  | none, _ => false

def waited (w : World σ) (ending : Ending) : World σ :=
  match ending.duration? with
  | some after => { w with elapsed := w.elapsed.add after }
  | none => w

def struck (w : World σ) : World σ :=
  { w with elapsed := w.cancelAt.getD w.elapsed, cancelAt := none }

end World

structure Settled (σ : Type) (c : Call) where
  outcome : c.Outcome
  world : World σ

namespace Settled

variable {σ : Type} {c : Call}

def failure? (s : Settled σ c) : Option Failure :=
  match s.outcome with
  | .ok _ => none
  | .error failure => some failure

end Settled

def Server.settle {σ : Type} (server : Server σ) (c : Call) (limit : TimeLimit) (w : World σ) :
    Settled σ c :=
  let (response, state) := server.respond w.server c
  let w := { w with server := state }
  let ending := Ending.of limit response.delay
  if w.isStruck ending then ⟨.error .cancelled, w.struck⟩
  else
    let outcome := match ending with
      | .answered _ => response.outcome
      | .expired _ => .error .expired
      | .never => .error .cancelled
    ⟨outcome, w.waited ending⟩

structure Run (σ α : Type) where
  result : α
  events : List Event
  world : World σ

namespace Run

variable {σ α : Type}

def after (r : Run σ α) (e : Event) : Run σ α := { r with events := e :: r.events }

def calls (r : Run σ α) : List Call := r.events.filterMap Event.call?

def remarks (r : Run σ α) : List Remark := r.events.filterMap Event.remark?

end Run

variable {σ ν α : Type}

def Interaction.run (s : Surroundings σ ν) : Interaction ν α → World σ → Run σ α
  | done result, w => ⟨result, [], w⟩
  | call stage c limit next, w =>
    if limit.isSpent then (next (.error .expired)).run s w
    else
      let settled := s.server.settle c limit w
      ((next settled.outcome).run s settled.world).after (.called stage c settled.failure?)
  | clock next, w => (next (s.clock w.readings)).run s { w with readings := w.readings + 1 }
  | remark r next, w => (next.run s w).after (.remarked r)

def Task.runIn (s : Surroundings σ ν) (task : Task ν α) (w : World σ) : Run σ (Except Failure α) :=
  Interaction.run s (ExceptT.run task) w

namespace World

def start (server : σ) (readings : Nat) (cancelAt : Option Binary64) : World σ :=
  ⟨server, readings, .zero, cancelAt⟩

end World

end QueryTuning
