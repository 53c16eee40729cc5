import QueryTuning.Pattern.Basic

/-!
# Shapes of a query

Patterns for the parts of a statement that the rules look for: comparisons of
string with numeric expressions, table references, projections and calls.
-/

set_option autoImplicit false

namespace QueryTuning.Query

open Pattern

def isParenthesis (c : Char) : Bool := c == '(' || c == ')'

def isLetterOrUnderscore (c : Char) : Bool := Text.isLetter c || c == '_'

def numericType : Pattern :=
  choice (["INT", "BIGINT", "SMALLINT", "TINYINT", "DECIMAL", "NUMERIC", "FLOAT", "REAL",
    "MONEY", "SMALLMONEY", "BIT"].map word)

def stringType : Pattern :=
  choice (["VARCHAR", "NVARCHAR", "CHAR", "NCHAR", "TEXT", "NTEXT"].map word)

def comparison : Pattern := choice (["=", "<>", "!=", "<=", ">=", "<", ">"].map word)

def typeArguments : Pattern :=
  optional (sequence [blanks0, letter '(', blanks0,
    choice [run1 Text.isDecimal, word "MAX"],
    optional (sequence [blanks0, letter ',', blanks0, run1 Text.isDecimal]),
    blanks0, letter ')'])

def conversionTo (types : Pattern) : Pattern :=
  alt
    (sequence [word "CAST", blanks0, letter '(', few (one fun c => !isParenthesis c),
      boundary, word "AS", blanks1, types, boundary, typeArguments, blanks0, letter ')'])
    (sequence [word "CONVERT", blanks0, letter '(', blanks0, types, boundary, typeArguments,
      blanks0, letter ',', run0 (fun c => !isParenthesis c), letter ')'])

def stringLiteral : Pattern :=
  sequence [optional (letter 'N'), letter '\'', run0 (· != '\''), letter '\'']

def numericLiteral : Pattern :=
  sequence [notAfter fun c => Text.isWord c || c == '@' || c == '.',
    optional (letter '-'), run1 Text.isDecimal,
    optional (seq (letter '.') (run1 Text.isDecimal)), boundary]

def stringExpression : Pattern := alt (conversionTo stringType) stringLiteral

def numericExpression : Pattern := alt (conversionTo numericType) numericLiteral

def compared (left right : Pattern) : Pattern :=
  sequence [left, blanks0, comparison, blanks0, right]

def mixedComparison : Pattern :=
  alt (compared stringExpression numericExpression) (compared numericExpression stringExpression)

def selectStar : Pattern :=
  sequence [boundary, word "SELECT", blanks1,
    optional (alt (seq (word "DISTINCT") blanks1) (seq (word "ALL") blanks1)),
    optional (sequence [word "TOP", blanks0, optional (letter '('), blanks0,
      run1 Text.isDecimal, blanks0, optional (letter ')'), blanks1,
      optional (seq (word "PERCENT") blanks1)]),
    letter '*', blanks0, word "FROM", boundary]

def noLockHint : Pattern :=
  sequence [boundary, word "WITH", blanks0, letter '(', blanks0, word "NOLOCK", blanks0,
    letter ')']

def selectDistinct : Pattern :=
  sequence [boundary, word "SELECT", blanks1, word "DISTINCT", boundary]

def leadingWildcard : Pattern :=
  sequence [boundary, word "LIKE", blanks1, optional (letter 'N'), word "'%",
    run0 (· != '\''), optional (letter '\'')]

def filterEnd : Pattern :=
  sequence [boundary,
    choice [sequence [word "GROUP", blanks1, word "BY"], sequence [word "ORDER", blanks1, word "BY"],
      word "UNION", word "SELECT"],
    boundary]

def filterOpening : Pattern :=
  sequence [boundary, choice [word "WHERE", word "ON", word "HAVING"], boundary,
    few (seq (notBefore filterEnd) (one notNewline)), boundary]

def filterFunction : Pattern :=
  choice (["UPPER", "LOWER", "SUBSTRING", "LEFT", "RIGHT", "LTRIM", "RTRIM", "DATEPART", "YEAR",
    "MONTH", "DAY", "CONVERT", "CAST"].map word)

def columnArgument : Pattern :=
  sequence [blanks0, letter '(', blanks0, optional (letter '['), one isLetterOrUnderscore]

def clauseKeywords : List String :=
  ["WHERE", "JOIN", "INNER", "LEFT", "RIGHT", "FULL", "CROSS", "OUTER", "APPLY", "ON", "GROUP",
    "ORDER", "HAVING", "UNION", "EXCEPT", "INTERSECT", "WITH", "OPTION", "PIVOT", "UNPIVOT",
    "FOR", "WINDOW"]

def bracketedName : Pattern := sequence [letter '[', run1 (· != ']'), letter ']']

def plainName : Pattern :=
  seq (one fun c => isLetterOrUnderscore c || c == '#' || c == '@')
    (run0 fun c => Text.isWord c || c == '$' || c == '#')

def namePart : Pattern := alt bracketedName plainName

def qualifiedName : Pattern := seq namePart (many (some 3) (seq (letter '.') namePart))

def tableAlias : Pattern :=
  sequence [blanks1, optional (seq (word "AS") blanks1),
    notBefore (seq (choice (clauseKeywords.map word)) boundary),
    one isLetterOrUnderscore, run0 Text.isWord]

def tableHint : Pattern :=
  sequence [blanks1, word "WITH", blanks0, letter '(', run0 (fun c => !isParenthesis c), letter ')']

def tableReference : Pattern := sequence [qualifiedName, optional tableAlias, optional tableHint]

def commaJoin : Pattern :=
  sequence [boundary, word "FROM", blanks1, tableReference, blanks0, letter ',', blanks0,
    tableReference]

def explicitJoin : Pattern :=
  seq blanks0 (alt (seq (word "ON") boundary)
    (sequence [
      optional (seq (choice [word "INNER", word "CROSS",
        seq (choice [word "LEFT", word "RIGHT", word "FULL"])
          (optional (seq blanks1 (word "OUTER")))]) blanks1),
      word "JOIN", boundary]))

def projectionParts : List Pattern :=
  [wholeWord "SELECT", few (one notNewline), alt (wholeWord "FROM") atEnd]

def isAsciiLetterOrUnderscore (c : Char) : Bool := c.isAlpha || c == '_'

def calledName : Pattern :=
  sequence [optional (letter '['), one isAsciiLetterOrUnderscore, run0 Text.isWord,
    optional (letter ']')]

def qualifiedCall : Pattern :=
  sequence [notAfter fun c => Text.isWord c || c == ']' || c == '.',
    seq (seq calledName (letter '.')) (many none (seq calledName (letter '.'))),
    calledName, blanks0, letter '(']

end QueryTuning.Query
