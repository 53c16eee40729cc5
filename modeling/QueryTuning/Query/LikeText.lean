/-!
# Literal text in a LIKE pattern

The wildcards of a LIKE pattern, and the backslash that escapes them, stand for
themselves when a backslash precedes them.
-/

set_option autoImplicit false

namespace QueryTuning.Query

def isLikeSpecial (c : Char) : Bool := c == '\\' || c == '%' || c == '_' || c == '['

def likeEscaped (text : List Char) : List Char :=
  text.flatMap fun c => if isLikeSpecial c then ['\\', c] else [c]

def likePattern (text : String) : String := String.ofList (likeEscaped text.toList)

end QueryTuning.Query
