import QueryTuning.Session.Interaction

/-!
# Round trips

A mandatory round trip ends the task when it fails. An optional one that fails
is reported and gives nothing. A session that was opened is closed whatever
happens in between, and a failure to close it hides nothing but is reported,
unless closing was cancelled.
-/

set_option autoImplicit false

namespace QueryTuning.Task

variable {ν α : Type}

def mandatory (stage : Stage) (c : Call) (limit : TimeLimit) : Task ν c.Answer :=
  ExceptT.mk (.call stage c limit fun outcome =>
    .done (outcome.mapError (Failure.inMandatory stage limit)))

def bestEffort (stage : Stage) (c : Call) (limit : TimeLimit) : Task ν (Option c.Answer) :=
  ExceptT.mk (.call stage c limit fun outcome =>
    match outcome with
    | .ok answer => .done (.ok (some answer))
    | .error .cancelled => .done (.error .cancelled)
    | .error failure =>
      .remark ⟨.warning, failure.unavailable stage limit⟩ (.done (.ok none)))

def thenClose (task : Task ν α) : Task ν α :=
  ExceptT.mk (task.run.bind fun result =>
    .call .closeSession .close none fun outcome =>
      match outcome with
      | .ok _ => .done result
      | .error .cancelled => .done (.error .cancelled)
      | .error failure =>
        .remark ⟨.warning, "Failed to close database session: " ++ failure.message⟩
          (.done result))

def inSession (connection : String) (limit : TimeLimit) (task : Task ν α) : Task ν α := do
  mandatory .openSession (.openSession connection) limit
  thenClose task

def onFatal (task : Task ν Unit) (report : Failure → String) : Task ν Unit :=
  ExceptT.mk (task.run.bind fun result =>
    match result with
    | .error (.fatal stage cause) =>
      .remark ⟨.warning, report (.fatal stage cause)⟩ (.done (.ok ()))
    | result => .done result)

def reporting (task : Task ν α) (cancelled failed : String) : Task ν α :=
  ExceptT.mk (task.run.bind fun result =>
    match result with
    | .error .cancelled => .remark ⟨.warning, cancelled⟩ (.done result)
    | .error failure =>
      if failure.isFinding then
        .remark ⟨.error, failed ++ failure.message⟩ (.done result)
      else .done result
    | .ok _ => .done result)

end QueryTuning.Task
