/-!
# Element trees

The meaning of a document: elements with expanded names, attributes and child
elements. Character data between the elements is checked when a document is
read and carries no facts, so it has no place in the tree.
-/

set_option autoImplicit false

namespace QueryTuning.Markup

structure ExpandedName where
  space : Option String
  localName : String
  deriving DecidableEq, Repr

structure Attribute where
  name : ExpandedName
  value : String
  deriving DecidableEq, Repr

inductive Element where
  | node (name : ExpandedName) (attributes : List Attribute) (children : List Element)

namespace Element

def name : Element → ExpandedName
  | node name _ _ => name

def attributes : Element → List Attribute
  | node _ attributes _ => attributes

def children : Element → List Element
  | node _ _ children => children

def localName (e : Element) : String := e.name.localName

def attribute? (e : Element) (name : String) : Option String :=
  (e.attributes.find? fun a => a.name = ⟨none, name⟩).map Attribute.value

mutual

def preorder : Element → List Element
  | node name attributes children => node name attributes children :: preorderAll children

def preorderAll : List Element → List Element
  | [] => []
  | e :: es => preorder e ++ preorderAll es

end

end Element

end QueryTuning.Markup
