import QueryTuning.Query.Issue
import QueryTuning.Query.Vocabulary
import QueryTuning.Pattern.Scan
import QueryTuning.Text.Basic

/-!
# Revising a query

Two kinds of issue have a textual remedy: a needless DISTINCT is dropped, and a
NOLOCK hint is deleted together with the blanks before it. A remedy that would
turn text which parses into text which does not is discarded. What parses is a
parameter; nothing here depends on a particular dialect.
-/

set_option autoImplicit false

namespace QueryTuning.Query

open Pattern

structure Remedy where
  pattern : Pattern
  replacement : List Char

def Remedy.apply (r : Remedy) (text : List Char) : List Char :=
  replaceAll r.pattern r.replacement text

def noLockWithBlanks : Pattern := seq blanks0 noLockHint

/-- The remedy for a kind of issue. The columns behind a wildcard are unknown without
the schema, so most kinds have none. -/
def remedy? : IssueKind → Option Remedy
  | .unnecessaryDistinct => some ⟨selectDistinct, "SELECT".toList⟩
  | .dirtyRead => some ⟨noLockWithBlanks, []⟩
  | _ => none

structure Revision where
  text : List Char
  /-- The kinds whose remedy was discarded, in order. -/
  discarded : List IssueKind
  deriving DecidableEq, Repr

def reviseStep (parses : List Char → Bool) (mustParse : Bool) (r : Revision)
    (kind : IssueKind) : Revision :=
  match remedy? kind with
  | none => r
  | some remedy =>
    let candidate := remedy.apply r.text
    if candidate = r.text then r
    else if mustParse && !parses candidate then { r with discarded := r.discarded ++ [kind] }
    else { r with text := candidate }

def reviseText (parses : List Char → Bool) (kinds : List IssueKind) (text : List Char) :
    Revision :=
  (distinctKinds kinds).foldl (reviseStep parses (parses text)) ⟨text, []⟩
where
  distinctKinds (kinds : List IssueKind) : List IssueKind :=
    kinds.foldl (fun seen kind => if kind ∈ seen then seen else seen ++ [kind]) []

def reviseFragment (issue : Issue) : String :=
  match remedy? issue.kind with
  | none => ""
  | some remedy => String.ofList (Text.trim (remedy.apply issue.fragment.toList))

structure Dialect where
  parses : List Char → Bool
  pretty : String → Option (List String)

def Dialect.permissive : Dialect := ⟨fun _ => true, fun _ => none⟩

def revise (dialect : Dialect) (kinds : List IssueKind) (query : String) : Revision :=
  reviseText dialect.parses kinds query.toList

def format (dialect : Dialect) (sql : String) : String :=
  match dialect.pretty sql with
  | some (s :: statements) => ";\n".intercalate (s :: statements)
  | _ => sql

end QueryTuning.Query
