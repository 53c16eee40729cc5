import QueryTuning.Pattern.Basic
import QueryTuning.Pattern.Scan

/-!
# Tables of a query

The names after FROM and JOIN. A qualified name counts by its last part.
-/

set_option autoImplicit false

namespace QueryTuning.Query

open Pattern

def isBareNameChar (c : Char) : Bool := Text.isLetter c || c.isDigit || c == '_' || c == '#'

def bareName : Pattern := run1 isBareNameChar

def bracketedTable : Pattern := sequence [letter '[', run1 (· != ']'), letter ']']

def tableOpening : Pattern :=
  sequence [boundary, choice [word "FROM", word "JOIN"], blanks1,
    many (some 3) (sequence [alt bracketedTable bareName, blanks0, letter '.', blanks0])]

def tableParts : List Pattern := [tableOpening, alt bracketedTable bareName]

def bareTable : List Char → List Char
  | '[' :: name => name.dropLast
  | name => name

def tableNames (text : List Char) : List (List Char) :=
  ((findAll tableParts text).map fun hit => bareTable (hit.part 1)).foldl
    (fun names name => if name ∈ names then names else names ++ [name]) []

def tablesOf (query : String) : List String :=
  (tableNames query.toList).map String.ofList

end QueryTuning.Query
