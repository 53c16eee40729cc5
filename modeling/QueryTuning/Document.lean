import QueryTuning.Number.Digits

/-!
# Documents

A document is what a report is made of: nested lists and named fields with
text, numbers and truth values at the leaves. It has a written form in the
usual data notation, on one line or indented. Characters outside ASCII are
written as escapes, so the text survives any encoding.
-/

set_option autoImplicit false

namespace QueryTuning

inductive Document where
  | null
  | truth (b : Bool)
  | integer (n : Int)
  | real (x : Binary64)
  | text (s : String)
  | list (items : List Document)
  | fields (entries : List (String × Document))
  deriving Inhabited

namespace Document

def ofOption {α : Type} (f : α → Document) : Option α → Document
  | none => null
  | some x => f x

def ofList {α : Type} (f : α → Document) (xs : List α) : Document := list (xs.map f)

def quotedChar (c : Char) : String :=
  if c = '"' then "\\\"" else if c = '\\' then "\\\\"
  else if c = '\n' then "\\n" else if c = '\r' then "\\r" else if c = '\t' then "\\t"
  else if c = '\x08' then "\\b" else if c = '\x0c' then "\\f"
  else if 0x20 ≤ c.toNat ∧ c.toNat < 0x7F then String.singleton c
  else if c.toNat < 0x10000 then "\\u" ++ Text.hexDigits 4 c.toNat
  else
    let offset := c.toNat - 0x10000
    "\\u" ++ Text.hexDigits 4 (0xD800 + offset / 0x400) ++ "\\u" ++ Text.hexDigits 4 (0xDC00 + offset % 0x400)

def quoted (s : String) : String := "\"" ++ String.join (s.toList.map quotedChar) ++ "\""

def realText : Binary64 → String
  | .nan => "NaN"
  | .infinite negative => if negative then "-Infinity" else "Infinity"
  | x => x.text

structure Layout where
  comma : String
  colon : String
  lineBreak : Nat → String

def Layout.oneLine : Layout := ⟨", ", ": ", fun _ => ""⟩

def Layout.indented (width : Nat) : Layout :=
  ⟨",", ": ", fun depth => String.ofList ('\n' :: List.replicate (width * depth) ' ')⟩

mutual

def writeAt (l : Layout) (depth : Nat) : Document → String
  | null => "null"
  | truth b => if b then "true" else "false"
  | integer n => toString n
  | real x => realText x
  | text s => quoted s
  | list [] => "[]"
  | list (d :: ds) =>
    "[" ++ l.lineBreak (depth + 1) ++ writeAt l (depth + 1) d ++ writeItems l (depth + 1) ds ++
      l.lineBreak depth ++ "]"
  | fields [] => "\x7b\x7d"
  | fields ((name, d) :: entries) =>
    "\x7b" ++ l.lineBreak (depth + 1) ++ quoted name ++ l.colon ++ writeAt l (depth + 1) d ++
      writeFields l (depth + 1) entries ++ l.lineBreak depth ++ "\x7d"

def writeItems (l : Layout) (depth : Nat) : List Document → String
  | [] => ""
  | d :: ds => l.comma ++ l.lineBreak depth ++ writeAt l depth d ++ writeItems l depth ds

def writeFields (l : Layout) (depth : Nat) : List (String × Document) → String
  | [] => ""
  | (name, d) :: entries =>
    l.comma ++ l.lineBreak depth ++ quoted name ++ l.colon ++ writeAt l depth d ++
      writeFields l depth entries

end

def write (l : Layout) (d : Document) : String := writeAt l 0 d

end Document

end QueryTuning
