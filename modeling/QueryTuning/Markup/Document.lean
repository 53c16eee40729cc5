import QueryTuning.Markup.Content

/-!
# Reading a document

A document is an optional declaration, comments and instructions around at most
one document type and exactly one element, and nothing else. Line ends count as
newlines however they are written. The declared encoding is not looked at, since
the text is already decoded.
-/

set_option autoImplicit false

namespace QueryTuning.Markup

def normalizeLines : List Char → List Char
  | [] => []
  | '\r' :: '\n' :: cs => '\n' :: normalizeLines cs
  | '\r' :: cs => '\n' :: normalizeLines cs
  | c :: cs => c :: normalizeLines cs

namespace Reader

def declarationValue : Reader String := do
  spaces0
  token "="
  spaces0
  let value ← quoted
  require (value.all fun c => c.isAlphanum || c == '.' || c == '-' || c == '_')
  return String.ofList value

def declaration : Reader Bool := do
  spaces1
  token "version"
  let _ ← declarationValue
  let mut space ← spaces?
  if ← token? "encoding" then
    require space
    let encoding ← declarationValue
    require ((encoding.toList.head?.map Char.isAlpha).getD false)
    space ← spaces?
  let mut standalone := false
  if ← token? "standalone" then
    require space
    let value ← declarationValue
    require (value = "yes" || value = "no")
    standalone := value = "yes"
    spaces0
  token "?>"
  return standalone

def declaration? : Reader Bool := do
  match afterPrefix? "<?xml".toList (← get) with
  | some (c :: _) =>
    if isNameChar c || c = ':' then return false
    else
      token "<?xml"
      declaration
  | _ => return false

def miscellaneous : Reader Unit := do
  let _ ← collect do
    spaces0
    if ← token? "<!--" then
      commentBody
      return some ()
    else if ← token? "<?" then
      instructionBody
      return some ()
    else return none

def document : Reader Element := do
  let d := Declarations.empty (← declaration?)
  miscellaneous
  let d ←
    if ← token? "<!DOCTYPE" then
      let d ← documentType d
      miscellaneous
      pure d
    else pure d
  token "<"
  let root ← element d
  miscellaneous
  return root

end Reader

def parse? (text : List Char) : Option Element :=
  if !text.all isDocumentChar then none
  else
    let body := if text.head? = some '\ufeff' then text.drop 1 else text
    match Reader.document (normalizeLines body) with
    | some (root, []) => some root
    | _ => none

end QueryTuning.Markup
