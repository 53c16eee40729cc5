import QueryTuning.Markup.Element
import QueryTuning.Markup.Reader

/-!
# Namespaces

Prefixes are bound to namespaces by attributes, for an element and all below
it. Two prefixes are reserved. A name with an unbound prefix has no meaning.
-/

set_option autoImplicit false

namespace QueryTuning.Markup

/-- Bindings of prefixes, the innermost first. The prefix `none` stands for names without
one, and the empty namespace for no namespace. -/
abbrev Bindings := List (Option String × String)

def reservedNamespace : String := "http://www.w3.org/XML/1998/namespace"

def bindingNamespace : String := "http://www.w3.org/2000/xmlns/"

namespace Bindings

def initial : Bindings := [(some "xml", reservedNamespace)]

def lookup? (b : Bindings) (space : Option String) : Option String :=
  (b.find? fun e => e.1 == space).map Prod.snd

/-- A binding is refused if it changes a reserved prefix, takes a reserved namespace,
unbinds a prefix, or names a namespace with a closing brace. -/
def bind? (b : Bindings) (space : Option String) (uri : String) : Option Bindings :=
  if space.isSome && uri.isEmpty then none
  else if space = some "xmlns" then none
  else if (space == some "xml") != (uri == reservedNamespace) then none
  else if uri = bindingNamespace then none
  else if uri.toList.contains '\x7d' then none
  else some ((space, uri) :: b)

def bound? (name : QualifiedName) : Option (Option String) :=
  if name.space = some "xmlns" then some (some name.localName)
  else if name.space = none ∧ name.localName = "xmlns" then some none
  else none

def extend? (b : Bindings) (attributes : List (QualifiedName × String)) : Option Bindings :=
  attributes.foldlM
    (fun b a =>
      match bound? a.1 with
      | some space => bind? b space a.2
      | none => some b) b

def elementName? (b : Bindings) (name : QualifiedName) : Option ExpandedName :=
  match name.space with
  | none =>
    match b.lookup? none with
    | none => some ⟨none, name.localName⟩
    | some uri => some ⟨if uri.isEmpty then none else some uri, name.localName⟩
  | some space => (b.lookup? (some space)).map fun uri => ⟨some uri, name.localName⟩

def attributeName? (b : Bindings) (name : QualifiedName) : Option ExpandedName :=
  match name.space with
  | none => some ⟨none, name.localName⟩
  | some space => (b.lookup? (some space)).map fun uri => ⟨some uri, name.localName⟩

end Bindings

end QueryTuning.Markup
