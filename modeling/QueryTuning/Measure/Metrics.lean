import QueryTuning.Cell
import QueryTuning.Number.Mean

/-!
# Measurements

The figures of one run or the mean of several, and the comparison of two. The
kind of number is a parameter: reports use double precision, while statements
about means may use exact fractions.

The improvement of a figure is its relative decrease in percent. A figure that
was not positive has no improvement.
-/

set_option autoImplicit false

namespace QueryTuning

class Quantity (ν : Type) where
  ofCount : Nat → ν
  ofReal : Binary64 → ν
  /-- The number in a cell, zero if it is not filled. -/
  ofCell : Cell → Except ValueFault ν
  difference : ν → ν → ν
  /-- A thousand times a number. -/
  thousandfold : ν → ν
  /-- A thousandth of a number. -/
  thousandth : ν → ν
  mean : List ν → Except ValueFault ν

instance : Quantity Binary64 where
  ofCount := Binary64.ofNat
  ofReal x := x
  ofCell := Cell.realOrZero
  difference := Binary64.sub
  thousandfold x := x.mul (.finite 1000)
  thousandth x := x.div (.finite 1000)
  mean := Binary64.mean

namespace Measure

structure Metrics (ν : Type) where
  executionTimeMs : ν
  cpuTimeMs : ν
  logicalReads : ν
  physicalReads : ν
  rowsReturned : ν
  rowsScanned : ν
  executionPlan : String
  estimatedPlanCost : ν
  isPlanCached : Bool
  planReuseCount : Int

variable {ν : Type} [Quantity ν]

def meanOf (runs : List (Metrics ν)) (figure : Metrics ν → ν) : Except ValueFault ν :=
  Quantity.mean (runs.map figure)

def average (first : Metrics ν) (others : List (Metrics ν)) : Except ValueFault (Metrics ν) := do
  let runs := first :: others
  let executionTimeMs ← meanOf runs Metrics.executionTimeMs
  let cpuTimeMs ← meanOf runs Metrics.cpuTimeMs
  let logicalReads ← meanOf runs Metrics.logicalReads
  let physicalReads ← meanOf runs Metrics.physicalReads
  let rowsReturned ← meanOf runs Metrics.rowsReturned
  let rowsScanned ← meanOf runs Metrics.rowsScanned
  let estimatedPlanCost ← meanOf runs Metrics.estimatedPlanCost
  return { first with
    executionTimeMs, cpuTimeMs, logicalReads, physicalReads, rowsReturned, rowsScanned,
    estimatedPlanCost }

def improvement (baseline optimized : Binary64) : Binary64 :=
  if baseline.le Binary64.zero then Binary64.zero
  else ((baseline.sub optimized).div baseline).mul (.finite 100)

structure Comparison where
  query : String
  optimizedQuery : String
  baseline : Metrics Binary64
  optimized : Metrics Binary64

namespace Comparison

def executionTime (c : Comparison) : Binary64 :=
  improvement c.baseline.executionTimeMs c.optimized.executionTimeMs

def cpuTime (c : Comparison) : Binary64 :=
  improvement c.baseline.cpuTimeMs c.optimized.cpuTimeMs

def logicalReads (c : Comparison) : Binary64 :=
  improvement c.baseline.logicalReads c.optimized.logicalReads

end Comparison

end Measure

end QueryTuning
