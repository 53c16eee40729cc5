import QueryTuning.Session.Call

/-!
# Interactions with a database

An interaction is a tree: at each node it makes a call, reads the clock or
writes a remark, and goes on with what it learns. What a call means is left to
whoever runs the tree. Failing interactions stop at their first failure unless
it is handled.
-/

set_option autoImplicit false

namespace QueryTuning

inductive Interaction (ν α : Type) where
  | done (result : α)
  | call (stage : Stage) (c : Call) (limit : TimeLimit) (next : c.Outcome → Interaction ν α)
  | clock (next : ν → Interaction ν α)
  | remark (r : Remark) (next : Interaction ν α)

namespace Interaction

variable {ν α β γ : Type}

def bind : Interaction ν α → (α → Interaction ν β) → Interaction ν β
  | done a, f => f a
  | call stage c limit next, f => call stage c limit fun outcome => (next outcome).bind f
  | clock next, f => clock fun reading => (next reading).bind f
  | remark r next, f => remark r (next.bind f)

instance : Monad (Interaction ν) where
  pure := done
  bind := bind

theorem bind_done (p : Interaction ν α) : p.bind done = p := by
  induction p with
  | done a => rfl
  | call stage c limit next ih => simp only [bind, ih]
  | clock next ih => simp only [bind, ih]
  | remark r next ih => simp only [bind, ih]

theorem bind_assoc (p : Interaction ν α) (f : α → Interaction ν β) (g : β → Interaction ν γ) :
    (p.bind f).bind g = p.bind fun a => (f a).bind g := by
  induction p with
  | done a => rfl
  | call stage c limit next ih => simp only [bind, ih]
  | clock next ih => simp only [bind, ih]
  | remark r next ih => simp only [bind, ih]

end Interaction

abbrev Task (ν : Type) := ExceptT Failure (Interaction ν)

namespace Task

variable {ν α : Type}

def warn (message : String) : Task ν Unit :=
  ExceptT.mk (.remark ⟨.warning, message⟩ (.done (.ok ())))

def readClock : Task ν ν := ExceptT.mk (.clock fun reading => .done (.ok reading))

def ofValue (conversion : Except ValueFault α) : Task ν α :=
  ExceptT.mk (.done (conversion.mapError .value))

def ofInput (check : Except InputFault α) : Task ν α :=
  ExceptT.mk (.done (check.mapError .invalidInput))

end Task

end QueryTuning
