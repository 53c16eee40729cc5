import QueryTuning.Pattern.Basic
import QueryTuning.Pattern.Scan

/-!
# Placeholders

A statement with placeholders cannot run on its own, so they give way to dummy
literals: a string after LIKE and a number everywhere else. Names with two at
signs belong to the server and stay.
-/

set_option autoImplicit false

namespace QueryTuning.Query

open Pattern

def likePlaceholder : Pattern :=
  sequence [boundary, word "LIKE", blanks1, letter '@', run1 Text.isWord]

def placeholder : Pattern :=
  sequence [notAfter fun c => c == '@' || Text.isWord c, letter '@', notBefore (letter '@'),
    run1 Text.isWord]

def substituteText (text : List Char) : List Char :=
  replaceAll placeholder ['1'] (replaceAll likePlaceholder "LIKE '1'".toList text)

def substitutePlaceholders (query : String) : String :=
  String.ofList (substituteText query.toList)

end QueryTuning.Query
