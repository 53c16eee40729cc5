import QueryTuning.Markup.Declarations
import QueryTuning.Markup.Namespaces

/-!
# Elements and their content

Start tags with their attributes, and the content between tags. An entity in
content is read as content of its own, so it opens and closes the same elements.
-/

set_option autoImplicit false

namespace QueryTuning.Markup

structure StartTag where
  written : QualifiedName
  name : ExpandedName
  attributes : List Attribute
  inside : Bindings
  isEmpty : Bool

namespace Reader

def attribute? (d : Declarations) (element : QualifiedName) :
    Reader (Option (QualifiedName × String)) := do
  let space ← spaces?
  match (← get).head? with
  | some '>' => return none
  | some '/' => return none
  | _ =>
    require space
    let name ← qualifiedName
    spaces0
    token "="
    spaces0
    let raw ← quoted
    let tokenized := ((d.ruleFor? element name).map AttributeRule.tokenized).getD false
    match attributeValue d tokenized raw with
    | none => refuse
    | some value => return some (name, value)

def missingDefaults (d : Declarations) (element : QualifiedName)
    (given : List (QualifiedName × String)) : List (QualifiedName × String) :=
  d.attributes.filterMap fun r =>
    if r.element = element ∧ given.all (fun g => g.1 ≠ r.name) then
      r.default.map fun value => (r.name, value)
    else none

def startTag (d : Declarations) (outside : Bindings) : Reader StartTag := do
  let written ← qualifiedName
  let given ← collect (attribute? d written)
  require (given.map Prod.fst).Nodup
  let all := given ++ missingDefaults d written given
  let isEmpty ← token? "/"
  token ">"
  match outside.extend? all with
  | none => refuse
  | some inside =>
    let own := all.filter fun a => (Bindings.bound? a.1).isNone
    let attributes := own.mapM fun a => (inside.attributeName? a.1).map fun n => ⟨n, a.2⟩
    match inside.elementName? written, attributes with
    | some name, some attributes =>
      require (attributes.map Attribute.name).Nodup
      return ⟨written, name, attributes, inside, isEmpty⟩
    | _, _ => refuse

def endTag (written : QualifiedName) : Reader Unit := do
  let name ← qualifiedName
  require (name = written)
  spaces0
  token ">"

def characterData : Reader Unit := do
  let chars ← run fun c => c != '<' && c != '&'
  require !(holdsSectionEnd chars)
where
  holdsSectionEnd : List Char → Bool
    | [] => false
    | c :: cs => (afterPrefix? "]]>".toList (c :: cs)).isSome || holdsSectionEnd cs

def contentWith (d : Declarations) (expand : String → Bindings → Option (List Element)) :
    (fuel : Nat) → Bindings → Reader (List Element)
  | 0, _ => refuse
  | fuel + 1, bindings => do
    match ← get with
    | [] => return []
    | '<' :: '/' :: _ => return []
    | '<' :: '!' :: _ =>
      if ← token? "<!--" then commentBody
      else
        token "<![CDATA["
        let _ ← upTo "]]>"
      contentWith d expand fuel bindings
    | '<' :: '?' :: _ =>
      token "<?"
      instructionBody
      contentWith d expand fuel bindings
    | '<' :: _ =>
      token "<"
      let tag ← startTag d bindings
      let children ←
        if tag.isEmpty then pure []
        else
          let children ← contentWith d expand fuel tag.inside
          token "</"
          endTag tag.written
          pure children
      let rest ← contentWith d expand fuel bindings
      return .node tag.name tag.attributes children :: rest
    | '&' :: _ =>
      token "&"
      match ← reference with
      | .character _ => contentWith d expand fuel bindings
      | .entity name =>
        match expand name bindings with
        | none => refuse
        | some elements => return elements ++ (← contentWith d expand fuel bindings)
    | _ =>
      characterData
      contentWith d expand fuel bindings

def entityElements (d : Declarations) : (level : Nat) → String → Bindings → Option (List Element)
  | 0, _, _ => none
  | level + 1, name, bindings =>
    match d.entity? name with
    | some (.text replacement) =>
      match contentWith d (entityElements d level) (replacement.length + 1) bindings replacement with
      | some (elements, []) => some elements
      | _ => none
    | _ => none

def element (d : Declarations) : Reader Element := do
  let tag ← startTag d Bindings.initial
  if tag.isEmpty then return .node tag.name tag.attributes []
  else
    let fuel := (← get).length + 1
    let children ← contentWith d (entityElements d (d.entities.length + 1)) fuel tag.inside
    token "</"
    endTag tag.written
    return .node tag.name tag.attributes children

end Reader

end QueryTuning.Markup
