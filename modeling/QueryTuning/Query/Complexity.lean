import QueryTuning.Text.Case
import QueryTuning.Text.Basic

/-!
# Complexity of a query

A rating from 1 to 10. Length and the number of issues count up to a limit, and
joins, APPLY, table expressions, UNION and GROUP BY add to it when their words
stand anywhere in the upper-cased text.
-/

set_option autoImplicit false

namespace QueryTuning.Query

def maxComplexity : Nat := 10

def keywordPoints (upperCased : List Char) : Nat :=
  let mentions (s : String) : Bool := Text.occursIn s.toList upperCased
  (if mentions "JOIN" then 1 else 0) +
  (if mentions "OUTER APPLY" || mentions "CROSS APPLY" then 2 else 0) +
  (if mentions "CTE" || mentions "WITH " then 1 else 0) +
  (if mentions "UNION" then 1 else 0) +
  (if mentions "GROUP BY" then 1 else 0)

def complexityOf (text : List Char) (issues : Nat) : Nat :=
  min maxComplexity
    (1 + min 3 (text.length / 1000) + min 4 (issues / 2) + keywordPoints (Text.upper text))

def complexity (query : String) (issues : Nat) : Nat := complexityOf query.toList issues

end QueryTuning.Query
