import QueryTuning.Markup.NameChars

/-!
# Reading markup

A reader takes characters from the front of a text and may refuse. These are
the readers for the small pieces: fixed tokens, white space, names, literals,
references, comments and processing instructions.
-/

set_option autoImplicit false

namespace QueryTuning.Markup

abbrev Reader (α : Type) := StateT (List Char) Option α

namespace Reader

def refuse {α : Type} : Reader α := fun _ => none

def require (b : Bool) : Reader Unit := if b then pure () else refuse

def afterPrefix? : List Char → List Char → Option (List Char)
  | [], cs => some cs
  | t :: ts, c :: cs => if t = c then afterPrefix? ts cs else none
  | _ :: _, [] => none

def token? (s : String) : Reader Bool := fun cs =>
  match afterPrefix? s.toList cs with
  | some rest => some (true, rest)
  | none => some (false, cs)

def token (s : String) : Reader Unit := fun cs =>
  (afterPrefix? s.toList cs).map fun rest => ((), rest)

def run (accepts : Char → Bool) : Reader (List Char) := fun cs =>
  some (cs.takeWhile accepts, cs.dropWhile accepts)

def spaces? : Reader Bool := do
  let blanks ← run isSpace
  return !blanks.isEmpty

def spaces0 : Reader Unit := do let _ ← spaces?

def spaces1 : Reader Unit := do require (← spaces?)

def upTo (mark : String) : Reader (List Char) := fun cs => go mark.toList [] cs
where
  go (mark taken : List Char) : List Char → Option (List Char × List Char)
    | [] => none
    | c :: cs =>
      match afterPrefix? mark (c :: cs) with
      | some rest => some (taken.reverse, rest)
      | none => go mark (c :: taken) cs

def simpleName : Reader String := fun cs =>
  match cs with
  | c :: rest =>
    if isNameStart c then
      some (String.ofList (c :: rest.takeWhile isNameChar), rest.dropWhile isNameChar)
    else none
  | [] => none

end Reader

structure QualifiedName where
  space : Option String
  localName : String
  deriving DecidableEq, Repr

namespace Reader

def qualifiedName : Reader QualifiedName := do
  let first ← simpleName
  if ← token? ":" then return ⟨some first, ← simpleName⟩ else return ⟨none, first⟩

def nameToken : Reader Unit := do
  let chars ← run fun c => isNameChar c || c == ':'
  require (!chars.isEmpty)

def quoted : Reader (List Char) := do
  if ← token? "\"" then upTo "\"" else do token "'"; upTo "'"

/-- Repeats a reader until it has no further item. Each item takes at least one
character, so the length of the text is enough fuel. -/
def collect {α : Type} (item : Reader (Option α)) : Reader (List α) := fun cs =>
  go item (cs.length + 1) cs
where
  go (item : Reader (Option α)) : Nat → Reader (List α)
    | 0 => refuse
    | fuel + 1 => do
      match ← item with
      | none => return []
      | some x => return x :: (← go item fuel)

def commentBody : Reader Unit := do
  let _ ← upTo "--"
  token ">"

def instructionBody : Reader Unit := do
  let target ← simpleName
  require (target.toList.map Char.toLower != ['x', 'm', 'l'])
  if ← token? "?>" then return
  spaces1
  let _ ← upTo "?>"

end Reader

inductive Reference where
  | character (c : Char)
  | entity (name : String)
  deriving DecidableEq, Repr

namespace Reader

def hexValue (c : Char) : Nat :=
  if c.isDigit then c.toNat - '0'.toNat else c.toLower.toNat - 'a'.toNat + 10

def characterNumber (n : Nat) : Reader Char :=
  if 0x110000 ≤ n || (0xD800 ≤ n && n < 0xE000) then refuse
  else
    let c := Char.ofNat n
    if isDocumentChar c then pure c else refuse

def predefined? : String → Option Char
  | "lt" => some '<'
  | "gt" => some '>'
  | "amp" => some '&'
  | "quot" => some '"'
  | "apos" => some '\''
  | _ => none

def reference : Reader Reference := do
  if ← token? "#x" then
    let digits ← run fun c => c.isDigit || ('a' ≤ c.toLower && c.toLower ≤ 'f')
    require (!digits.isEmpty)
    token ";"
    return .character (← characterNumber (digits.foldl (fun n c => 16 * n + hexValue c) 0))
  else if ← token? "#" then
    let digits ← run Char.isDigit
    require (!digits.isEmpty)
    token ";"
    return .character (← characterNumber (digits.foldl (fun n c => 10 * n + hexValue c) 0))
  else
    let name ← simpleName
    token ";"
    match predefined? name with
    | some c => return .character c
    | none => return .entity name

end Reader

end QueryTuning.Markup
