import QueryTuning.Markup.Document
import QueryTuning.Number.Literal
import QueryTuning.Pattern.Basic
import QueryTuning.Plan.Advisory
import QueryTuning.Session.RoundTrip
import QueryTuning.Text.Basic
import QueryTuning.Text.Case

/-!
# Reading an execution plan

Elements are known by their local names, so documents with and without a
namespace read alike. Missing indexes inside a group inherit its impact; those
outside any group count only if no group holds one. A document that is not
well formed reads as an empty plan.

A plan is asked for in a mandatory round trip. One that is missing or malformed
counts as empty and is remarked upon.
-/

set_option autoImplicit false

namespace QueryTuning.Plan

open Markup

def unbracketed (text : List Char) : List Char :=
  let name := Text.trim text
  if name.head? = some '[' ∧ name.getLast? = some ']' then (name.drop 1).dropLast else name

def attributeName (e : Element) (key : String) : String :=
  match e.attribute? key with
  | none => ""
  | some value => String.ofList (unbracketed value.toList)

def attributeReal? (e : Element) (key : String) : Option Binary64 :=
  (e.attribute? key).bind fun value => Literal.real? value.toList

inductive Usage where
  | equality
  | inequality
  | included
  deriving DecidableEq, Repr

def Usage.ofText? (text : List Char) : Option Usage :=
  let upperCased := String.ofList (Text.upper text)
  if upperCased = "EQUALITY" then some equality
  else if upperCased = "INEQUALITY" then some inequality
  else if upperCased = "INCLUDE" then some included
  else none

def usage? (columnGroup : Element) : Option Usage :=
  Usage.ofText? ((columnGroup.attribute? "Usage").getD "").toList

def columnNames (columnGroup : Element) : List String :=
  ((columnGroup.children.filter fun e => e.localName == "Column").map
    fun e => attributeName e "Name").filter fun name => name ≠ ""

def columnsFor (usage : Usage) (missingIndex : Element) : List String :=
  (missingIndex.children.filter fun e =>
    e.localName == "ColumnGroup" && usage? e == some usage).flatMap columnNames

def advisory (groupImpact : Option Binary64) (missingIndex : Element) : Advisory where
  database := attributeName missingIndex "Database"
  schema := attributeName missingIndex "Schema"
  table := attributeName missingIndex "Table"
  equalityColumns := columnsFor .equality missingIndex
  inequalityColumns := columnsFor .inequality missingIndex
  includeColumns := columnsFor .included missingIndex
  impact := (attributeReal? missingIndex "Impact").or groupImpact

def isMissingIndex (e : Element) : Bool := e.localName == "MissingIndex"

def isMissingIndexGroup (e : Element) : Bool := e.localName == "MissingIndexGroup"

def groupedAdvisories (root : Element) : List Advisory :=
  (root.preorder.filter isMissingIndexGroup).flatMap fun group =>
    (group.children.filter isMissingIndex).map (advisory (attributeReal? group "Impact"))

def bareAdvisories (root : Element) : List Advisory :=
  (root.preorder.filter isMissingIndex).map (advisory none)

def advisories (root : Element) : List Advisory :=
  match groupedAdvisories root with
  | [] => bareAdvisories root
  | found => found

def estimatedCost (root : Element) : Binary64 :=
  (root.preorder.findSome? fun e => attributeReal? e "EstimatedTotalSubtreeCost").getD Binary64.zero

def ofElement (mode : Mode) (document : String) (root : Element) : Extraction :=
  ⟨mode, estimatedCost root, advisories root, document⟩

def declaration : Pattern :=
  Pattern.sequence [Pattern.blanks0, Pattern.word "<?", Pattern.one (· == 'x'),
    Pattern.one (· == 'm'), Pattern.one (· == 'l'), Pattern.run0 (· != '>'), Pattern.word "?>"]

def withoutDeclaration (text : List Char) : List Char :=
  match declaration.run (Cursor.ofText text) some with
  | some c => c.rest
  | none => text

inductive Reading where
  | blank
  | malformed
  | plan (e : Extraction)

def read (mode : Mode) (document : String) : Reading :=
  if isBlankString document then .blank
  else
    match parse? (withoutDeclaration document.toList) with
    | none => .malformed
    | some root => .plan (ofElement mode document root)

def interpret (mode : Mode) (document : String) : Extraction :=
  match read mode document with
  | .plan e => e
  | _ => Extraction.empty mode

variable {ν : Type}

def understand (mode : Mode) (document : Option String) : Task ν Extraction :=
  match read mode (document.getD "") with
  | .blank => return Extraction.empty mode
  | .malformed => do
    Task.warn ("Could not parse " ++ mode.name ++ " plan")
    return Extraction.empty mode
  | .plan e => return e

def retrieve (stage : Stage) (mode : Mode) (remark sql : String) (limit : TimeLimit) :
    Task ν Extraction := do
  let document ← Task.mandatory stage (.fetchPlan sql mode) limit
  let extraction ← understand mode document
  if extraction.isEmpty then Task.warn remark
  return extraction

end QueryTuning.Plan
