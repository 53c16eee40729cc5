import QueryTuning.Number.Binary64

/-!
# Facts of an execution plan

What the optimizer's plan document says that matters for advice: the estimated
cost and the indexes it misses.
-/

set_option autoImplicit false

namespace QueryTuning.Plan

inductive Mode where
  | estimated
  | actual
  deriving DecidableEq, Repr

def Mode.name : Mode → String
  | estimated => "estimated"
  | actual => "actual"

structure Advisory where
  database : String
  schema : String
  table : String
  equalityColumns : List String
  inequalityColumns : List String
  includeColumns : List String
  impact : Option Binary64
  deriving DecidableEq

structure Extraction where
  mode : Mode
  estimatedCost : Binary64
  advisories : List Advisory
  document : String

namespace Extraction

def empty (mode : Mode) : Extraction := ⟨mode, Binary64.zero, [], ""⟩

def isEmpty (e : Extraction) : Bool := e.document.isEmpty

end Extraction

end QueryTuning.Plan
