import QueryTuning.Pattern.Basic
import QueryTuning.Pattern.Scan
import QueryTuning.Text.Basic

/-!
# Environment files

A file of settings has one binding on a line: a name, an equals sign and a
value, which may stand in quotes and then go on over several lines. Blank lines
and comments are passed over, and so is the rest of a line that is none of this.
A value may refer to variables by name.
-/

set_option autoImplicit false

namespace QueryTuning.EnvironmentFile

open Pattern

def exactly (s : String) : Pattern := sequence (s.toList.map fun c => one (· == c))

def isSpace (c : Char) : Bool := Text.isBlank c && c != '\n'

def spaces : Pattern := run0 isSpace

def exportMark : Pattern := optional (seq (exactly "export") (run1 isSpace))

def isNameChar (c : Char) : Bool := c != '=' && c != '#' && !Text.isBlank c

def comment : Pattern := optional (sequence [spaces, exactly "#", run0 notNewline])

def lineEnd : Pattern := seq spaces (alt (exactly "\n") atEnd)

def restOfLine : Pattern := seq (run0 notNewline) (optional (exactly "\n"))

def quotedBody (quote : Char) : Pattern :=
  many none (alt (sequence [one (· == '\\'), one (· == quote)]) (one (· != quote)))

def taken (p : Pattern) (text : List Char) : Option (List Char × List Char) :=
  (p.run (Cursor.ofText text) some).map fun stop => ((Cursor.ofText text).upTo stop, stop.rest)

def past (p : Pattern) (text : List Char) : List Char :=
  match taken p text with
  | some (_, rest) => rest
  | none => text

def quotedText (quote : Char) (body : Pattern) (text : List Char) :
    Option (List Char × List Char) := do
  let (whole, rest) ← taken (sequence [one (· == quote), body, one (· == quote)]) text
  return ((whole.drop 1).dropLast, rest)

def unescaped (escapes : List (Char × Char)) : List Char → List Char
  | '\\' :: c :: cs =>
    match escapes.find? fun e => e.1 == c with
    | some (_, meaning) => meaning :: unescaped escapes cs
    | none => '\\' :: unescaped escapes (c :: cs)
  | c :: cs => c :: unescaped escapes cs
  | [] => []

def singleQuoteEscapes : List (Char × Char) := [('\\', '\\'), ('\'', '\'')]

def doubleQuoteEscapes : List (Char × Char) :=
  [('\\', '\\'), ('\'', '\''), ('"', '"'), ('a', '\x07'), ('b', '\x08'), ('f', '\x0c'),
    ('n', '\n'), ('r', '\r'), ('t', '\t'), ('v', '\x0b')]

def trailingComment : Pattern := sequence [blanks1, exactly "#", run0 notNewline]

def readName (text : List Char) : Option (Option (List Char) × List Char) :=
  match text with
  | '#' :: _ => some (none, text)
  | '\'' :: _ => (quotedText '\'' (run1 (· != '\'')) text).map fun (name, rest) => (some name, rest)
  | _ => (taken (run1 isNameChar) text).map fun (name, rest) => (some name, rest)

def readValue (text : List Char) : Option (List Char × List Char) :=
  match text with
  | [] => some ([], text)
  | '\n' :: _ => some ([], text)
  | '\'' :: _ => (quotedText '\'' (quotedBody '\'') text).map fun (value, rest) =>
    (unescaped singleQuoteEscapes value, rest)
  | '"' :: _ => (quotedText '"' (quotedBody '"') text).map fun (value, rest) =>
    (unescaped doubleQuoteEscapes value, rest)
  | _ =>
    let value := text.takeWhile notNewline
    some (Text.trimEnd (replaceAll trailingComment [] value), text.dropWhile notNewline)

structure Binding where
  name : String
  value : Option String
  deriving DecidableEq, Repr

structure Line where
  binding : Option Binding
  rest : List Char

def readBinding (name : Option (List Char)) (text : List Char) : Line :=
  let afterName := past spaces text
  let finish (value : Option (List Char)) (rest : List Char) : Line :=
    let afterComment := past comment rest
    match taken lineEnd afterComment with
    | some (_, rest) => ⟨name.map fun n => ⟨String.ofList n, value.map String.ofList⟩, rest⟩
    | none => ⟨none, past restOfLine afterComment⟩
  match afterName with
  | '=' :: cs =>
    let text := past spaces cs
    match readValue text with
    | some (value, rest) => finish (some value) rest
    | none => ⟨none, past restOfLine text⟩
  | _ => finish none afterName

def readLine (text : List Char) : Line :=
  let text := past exportMark text
  match readName text with
  | some (name, rest) => readBinding name rest
  | none => ⟨none, past restOfLine text⟩

def bindingsWithin : Nat → List Char → List Binding
  | 0, _ => []
  | budget + 1, text =>
    match text.dropWhile Text.isBlank with
    | [] => []
    | text =>
      let line := readLine text
      line.binding.toList ++ bindingsWithin budget line.rest

def bindings (text : List Char) : List Binding :=
  let text := Text.unifyNewlines text
  bindingsWithin (text.length + 1) text

abbrev Variables := List (String × Option String)

def lookUp (known : Variables) (name : String) : Option (Option String) :=
  (known.reverse.find? fun entry => entry.1 == name).map Prod.snd

def bind (known : Variables) (name : String) (value : Option String) : Variables :=
  if known.any fun entry => entry.1 == name then
    known.map fun entry => if entry.1 = name then (name, value) else entry
  else known ++ [(name, value)]

def reference : List Pattern :=
  [exactly "$\x7b", run0 (fun c => c != '\x7d' && c != ':'),
    optional (seq (exactly ":-") (run0 (· != '\x7d'))), exactly "\x7d"]

def namesIn (text : List Char) : List String :=
  (findAll reference text).map fun h => String.ofList (h.part 1)

def referred (known : Variables) (h : Hit) : List Char :=
  match lookUp known (String.ofList (h.part 1)) with
  | some value => (value.getD "").toList
  | none => (h.part 2).drop 2

def resolved (known : Variables) (value : List Char) : List Char :=
  (segments reference (Cursor.ofText value)).flatMap fun segment =>
    match segment with
    | .kept c => [c]
    | .hit h => referred known h

def resolveAll (environment : Variables) : Variables → List Binding → Variables
  | known, [] => known
  | known, b :: bs =>
    let value := b.value.map fun v => String.ofList (resolved (environment ++ known) v.toList)
    resolveAll environment (bind known b.name value) bs

def read (environment : List (String × String)) (text : String) : Variables :=
  resolveAll (environment.map fun (name, value) => (name, some value)) [] (bindings text.toList)

end QueryTuning.EnvironmentFile
