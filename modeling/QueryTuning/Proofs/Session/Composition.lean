import QueryTuning.Proofs.Session.Refusals

/-!
# Composition of tasks

How a task is put together from round trips and checks, whatever comes of them. What holds of
every part and is kept by sequences holds of the whole, so one account of how a task is made tells
both which calls it makes and which faults it finds.
-/

set_option autoImplicit false

namespace QueryTuning

variable {ν α β : Type}

namespace Task

/-- The task is put together from round trips that have the property `P`, from checks whose faults
have the property `F`, and from remarks and readings of the clock. What comes second in a sequence
only counts with the results that the first part can have. -/
inductive Composed (P : Stage → Call → Prop) (F : InputFault → Prop) :
    {α : Type} → Task ν α → Prop where
  | silent {α : Type} {task : Task ν α} {r : Except Failure α} (h : Yields task r)
      (hr : ∀ fault, r = .error (.invalidInput fault) → F fault) : Composed P F task
  | readClock : Composed P F readClock
  | mandatory {stage : Stage} {c : Call} (limit : TimeLimit) (h : P stage c) :
      Composed P F (mandatory stage c limit)
  | bestEffort {stage : Stage} {c : Call} (limit : TimeLimit) (hs : stage ≠ .warmup)
      (h : P stage c) : Composed P F (bestEffort stage c limit)
  | onFatal {task : Task ν Unit} {report : Failure → String} (h : Composed P F task) :
      Composed P F (onFatal task report)
  | sequence {α β : Type} {task : Task ν α} {f : α → Task ν β} (h : Composed P F task)
      (hf : ∀ (t : Trace ν) (a : α), Follows task t (.ok a) → Composed P F (f a)) :
      Composed P F (task >>= f)

variable {P Q : Stage → Call → Prop} {F G : InputFault → Prop}

namespace Composed

theorem mono {task : Task ν α} (h : Composed P F task) (hP : ∀ stage c, P stage c → Q stage c)
    (hF : ∀ fault, F fault → G fault) : Composed Q G task := by
  induction h with
  | silent h hr => exact .silent h fun fault hfault => hF fault (hr fault hfault)
  | readClock => exact .readClock
  | mandatory limit h => exact .mandatory limit (hP _ _ h)
  | bestEffort limit hs h => exact .bestEffort limit hs (hP _ _ h)
  | onFatal _ ih => exact .onFatal ih
  | sequence _ _ ih ihf => exact .sequence ih ihf

theorem conducts {task : Task ν α} (h : Composed P F task) : Conducts P task := by
  induction h with
  | silent h _ => exact conducts_of_yields h
  | readClock => exact conducts_readClock
  | mandatory limit h => exact conducts_mandatory limit h
  | bestEffort limit hs h => exact conducts_bestEffort limit hs h
  | onFatal _ ih => exact conducts_onFatal ih
  | sequence _ _ ih ihf => exact conducts_bind ih ihf

theorem refusesOnly {task : Task ν α} (h : Composed P F task) : RefusesOnly F task := by
  induction h with
  | silent h hr => exact refusesOnly_of_yields h hr
  | readClock => exact refusesOnly_readClock
  | mandatory => exact refusesOnly_mandatory
  | bestEffort => exact refusesOnly_bestEffort
  | onFatal _ ih => exact refusesOnly_onFatal ih
  | sequence _ _ ih ihf => exact refusesOnly_bind ih ihf

end Composed

theorem composed_of_yields_ok {task : Task ν α} {a : α} (h : Yields task (.ok a)) :
    Composed P F task :=
  .silent h (by simp)

theorem composed_pure (a : α) : Composed P F (pure a : Task ν α) :=
  composed_of_yields_ok (yields_pure a)

theorem composed_ofValue (conversion : Except ValueFault α) :
    Composed P F (ofValue conversion : Task ν α) := by
  refine .silent (yields_ofValue conversion) fun fault hr => ?_
  cases conversion <;> cases hr

theorem composed_ofInput {check : Except InputFault α}
    (h : ∀ fault, check = .error fault → F fault) :
    Composed P F (ofInput check : Task ν α) := by
  refine .silent (yields_ofInput check) fun fault hr => ?_
  cases check with
  | ok a => cases hr
  | error _ =>
    cases hr
    exact h fault rfl

/-- A check that was passed finds no fault. -/
theorem faults_of_passed {check : Except InputFault α} {a : α} (h : check = .ok a) :
    ∀ fault, check = .error fault → F fault := by
  intro fault hfault
  rw [h] at hfault
  cases hfault

theorem composed_bind {task : Task ν α} {f : α → Task ν β} (h : Composed P F task)
    (hf : ∀ a, Composed P F (f a)) : Composed P F (task >>= f) :=
  .sequence h fun _ a _ => hf a

/-- What follows a check runs only if the check was passed. -/
theorem composed_ofInput_bind {check : Except InputFault α} {f : α → Task ν β}
    (h : ∀ fault, check = .error fault → F fault)
    (hf : ∀ a, check = .ok a → Composed P F (f a)) :
    Composed P F ((ofInput check : Task ν α) >>= f) := by
  refine .sequence (composed_ofInput h) fun t a ha => hf a ?_
  obtain ⟨-, hr⟩ := follows_ofInput.mp ha
  cases check with
  | ok b => rw [Except.ok.inj hr]
  | error _ => cases hr

end Task

end QueryTuning
