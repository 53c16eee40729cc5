import QueryTuning.Markup.Reader

/-!
# Document type declarations

The declarations in the internal subset of a document type. Entities and
attribute defaults are kept; element types and notations are only checked.
Nothing is fetched from outside: a document that refers to outside declarations
may use names that are not declared here.
-/

set_option autoImplicit false

namespace QueryTuning.Markup

inductive Entity where
  | text (replacement : List Char)
  | external
  | unparsed

structure AttributeRule where
  element : QualifiedName
  name : QualifiedName
  tokenized : Bool
  default : Option String

structure Declarations where
  entities : List (String × Entity)
  attributes : List AttributeRule
  /-- The document says that it needs no outside declarations. -/
  standalone : Bool
  /-- There are declarations that were not read. -/
  incomplete : Bool
  /-- Declarations are still taken in. After a reference to unread ones they are not. -/
  active : Bool

namespace Declarations

def empty (standalone : Bool) : Declarations := ⟨[], [], standalone, false, true⟩

def entity? (d : Declarations) (name : String) : Option Entity :=
  (d.entities.find? fun e => e.1 == name).map Prod.snd

def complete (d : Declarations) : Bool := d.standalone || !d.incomplete

def addEntity (d : Declarations) (name : String) (e : Entity) : Declarations :=
  if !d.active || (d.entity? name).isSome then d
  else { d with entities := d.entities ++ [(name, e)] }

def ruleFor? (d : Declarations) (element name : QualifiedName) : Option AttributeRule :=
  d.attributes.find? fun r => r.element = element && r.name = name

def addRule (d : Declarations) (r : AttributeRule) : Declarations :=
  if !d.active || (d.ruleFor? r.element r.name).isSome then d
  else { d with attributes := d.attributes ++ [r] }

end Declarations

/-- The characters of an attribute value, with references resolved. White space becomes
a space unless it comes from a character reference. Entities nest at most `level` deep. -/
def attributeChars (d : Declarations) : (level : Nat) → List Char → Option (List Char)
  | 0, _ => none
  | level + 1, cs => go (attributeChars d level) (cs.length + 1) cs
where
  go (inner : List Char → Option (List Char)) : Nat → List Char → Option (List Char)
    | 0, _ => none
    | _ + 1, [] => some []
    | fuel + 1, c :: cs =>
      if c = '<' then none
      else if c = '&' then do
        let (r, rest) ← Reader.reference cs
        let chars ←
          match r with
          | .character x => some [x]
          | .entity name =>
            match d.entity? name with
            | some (.text replacement) => inner replacement
            | some _ => none
            | none => if d.complete then none else some []
        return chars ++ (← go inner fuel rest)
      else do return (if isSpace c then ' ' else c) :: (← go inner fuel cs)

def tokenizedValue (cs : List Char) : List Char :=
  go (cs.dropWhile (· == ' '))
where
  go : List Char → List Char
    | [] => []
    | ' ' :: cs =>
      match cs with
      | [] => []
      | ' ' :: _ => go cs
      | _ => ' ' :: go cs
    | c :: cs => c :: go cs

def attributeValue (d : Declarations) (tokenized : Bool) (raw : List Char) : Option String :=
  (attributeChars d (d.entities.length + 1) raw).map fun cs =>
    String.ofList (if tokenized then tokenizedValue cs else cs)

namespace Reader

def isPublicChar (c : Char) : Bool :=
  c.isAlphanum || " \n\r-'()+,./:=?;!*#@$_%".toList.contains c

def publicLiteral : Reader Unit := do
  let id ← quoted
  require (id.all isPublicChar)

def externalId? : Reader Bool := do
  if ← token? "SYSTEM" then
    spaces1
    let _ ← quoted
    return true
  else if ← token? "PUBLIC" then
    spaces1
    publicLiteral
    spaces1
    let _ ← quoted
    return true
  else return false

def replacementText : (fuel : Nat) → List Char → Option (List Char)
  | 0, _ => none
  | _ + 1, [] => some []
  | fuel + 1, c :: cs =>
    if c = '%' then none
    else if c = '&' then do
      let (r, rest) ← reference cs
      let taken := cs.take (cs.length - rest.length)
      let chars :=
        match r with
        | .character x => if taken.head? = some '#' then [x] else '&' :: taken
        | .entity _ => '&' :: taken
      return chars ++ (← replacementText fuel rest)
    else do return c :: (← replacementText fuel cs)

def entityDeclaration (d : Declarations) : Reader Declarations := do
  spaces1
  let isParameter ← token? "%"
  if isParameter then spaces1
  let name ← simpleName
  spaces1
  if ← externalId? then
    let space ← spaces?
    let isUnparsed ← token? "NDATA"
    if isUnparsed then
      require (space && !isParameter)
      spaces1
      let _ ← simpleName
    spaces0
    token ">"
    return if isParameter then d else d.addEntity name (if isUnparsed then .unparsed else .external)
  else
    let raw ← quoted
    spaces0
    token ">"
    if d.active then
      match replacementText (raw.length + 1) raw with
      | none => refuse
      | some replacement =>
        return if isParameter || (predefined? name).isSome then d
          else d.addEntity name (.text replacement)
    else return d

def repetition : Reader Unit := do
  if ← token? "?" then return
  if ← token? "*" then return
  let _ ← token? "+"

/-- The rest of a group of content particles, after its opening parenthesis. All
particles of a group are joined by one kind of separator. -/
def group : (depth : Nat) → Reader Unit
  | 0 => refuse
  | depth + 1 => do
    particle depth
    spaces0
    let separator := if ← token? "," then "," else "|"
    let first : Bool ← (if separator = "," then pure true else token? "|")
    if first then
      spaces0
      particle depth
      let _ ← collect do
        spaces0
        if ← token? separator then
          spaces0
          particle depth
          return some ()
        else return none
    spaces0
    token ")"
where
  particle (depth : Nat) : Reader Unit := do
    if ← token? "(" then
      spaces0
      group depth
      repetition
    else
      let _ ← qualifiedName
      repetition

def contentModel : Reader Unit := do
  if ← token? "EMPTY" then return
  if ← token? "ANY" then return
  token "("
  spaces0
  if ← token? "#PCDATA" then
    let names ← collect do
      spaces0
      if ← token? "|" then
        spaces0
        let _ ← qualifiedName
        return some ()
      else return none
    spaces0
    token ")"
    if names.isEmpty then
      let _ ← token? "*"
    else token "*"
  else fun cs =>
    (do group (cs.length + 1); repetition : Reader Unit) cs

def elementDeclaration : Reader Unit := do
  spaces1
  let _ ← qualifiedName
  spaces1
  contentModel
  spaces0
  token ">"

def alternatives (item : Reader Unit) : Reader Unit := do
  spaces0
  item
  let _ ← collect do
    spaces0
    if ← token? "|" then
      spaces0
      item
      return some ()
    else return none
  spaces0
  token ")"

def attributeType : Reader Bool := do
  if ← token? "(" then
    alternatives nameToken
    return true
  let name ← simpleName
  if name = "NOTATION" then
    spaces1
    token "("
    alternatives (do let _ ← simpleName)
    return true
  else if name = "CDATA" then return false
  else
    require (["ID", "IDREF", "IDREFS", "ENTITY", "ENTITIES", "NMTOKEN", "NMTOKENS"].contains name)
    return true

def attributeDefault : Reader (Option (List Char)) := do
  if ← token? "#" then
    let word ← simpleName
    if word = "FIXED" then
      spaces1
      return some (← quoted)
    else
      require (word = "REQUIRED" || word = "IMPLIED")
      return none
  else return some (← quoted)

def attributeRule (d : Declarations) (element : QualifiedName) :
    Reader (Option AttributeRule) := do
  let space ← spaces?
  if ← token? ">" then return none
  require space
  let name ← qualifiedName
  spaces1
  let tokenized ← attributeType
  spaces1
  match ← attributeDefault with
  | none => return some ⟨element, name, tokenized, none⟩
  | some raw =>
    if d.active then
      match attributeValue d tokenized raw with
      | none => refuse
      | some value => return some ⟨element, name, tokenized, some value⟩
    else return some ⟨element, name, tokenized, none⟩

def attributeList (d : Declarations) : Reader Declarations := do
  spaces1
  let element ← qualifiedName
  let rules ← collect (attributeRule d element)
  return rules.foldl Declarations.addRule d

def notationDeclaration : Reader Unit := do
  spaces1
  let _ ← simpleName
  spaces1
  if ← token? "SYSTEM" then
    spaces1
    let _ ← quoted
  else
    token "PUBLIC"
    spaces1
    publicLiteral
    let space ← spaces?
    let isSystem := (← get).head? != some '>'
    if isSystem then
      require space
      let _ ← quoted
  spaces0
  token ">"

def internalSubset : (fuel : Nat) → Declarations → Reader Declarations
  | 0, _ => refuse
  | fuel + 1, d => do
    spaces0
    if ← token? "]" then return d
    else if ← token? "%" then
      let _ ← simpleName
      token ";"
      internalSubset fuel { d with incomplete := true, active := d.standalone }
    else if ← token? "<!--" then
      commentBody
      internalSubset fuel d
    else if ← token? "<?" then
      instructionBody
      internalSubset fuel d
    else if ← token? "<!ENTITY" then
      internalSubset fuel (← entityDeclaration d)
    else if ← token? "<!ATTLIST" then
      internalSubset fuel (← attributeList d)
    else if ← token? "<!ELEMENT" then
      elementDeclaration
      internalSubset fuel d
    else
      token "<!NOTATION"
      notationDeclaration
      internalSubset fuel d

def documentType (d : Declarations) : Reader Declarations := do
  spaces1
  let _ ← qualifiedName
  let space ← spaces?
  let outside ← externalId?
  require (space || !outside)
  spaces0
  let d := { d with incomplete := d.incomplete || outside }
  let d ←
    if ← token? "[" then
      let d ← (fun cs => internalSubset (cs.length + 1) d cs : Reader Declarations)
      spaces0
      pure d
    else pure d
  token ">"
  return d

end Reader

end QueryTuning.Markup
