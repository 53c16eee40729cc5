import QueryTuning.Text.CharRanges

/-!
# Characters and texts

Blanks, word characters and decimal digits over all of Unicode, and the
letters that count as one when case is ignored. Two letters of ASCII have
relatives outside it: the long s and the Kelvin sign stand for s and k, and
the dotted capital and dotless small i stand for i.

Texts are trimmed at their ends, searched for words, and brought to one kind
of line end. Inside a message a text stands between single quotes, or between
double quotes if it holds single ones only, with escapes for what cannot be shown.
-/

set_option autoImplicit false

namespace QueryTuning.Text

def isBlank (c : Char) : Bool :=
  let n := c.toNat
  (0x09 ≤ n && n ≤ 0x0D) || (0x1C ≤ n && n ≤ 0x20) || n == 0x85 || n == 0xA0 ||
    n == 0x1680 || (0x2000 ≤ n && n ≤ 0x200A) || n == 0x2028 || n == 0x2029 ||
    n == 0x202F || n == 0x205F || n == 0x3000

def isWord (c : Char) : Bool :=
  if c.toNat < 128 then c.isAlphanum || c == '_' else wordRanges.contains c

def digitZeros : List Nat := [
  0x660, 0x6F0, 0x7C0, 0x966, 0x9E6, 0xA66, 0xAE6, 0xB66, 0xBE6, 0xC66, 0xCE6, 0xD66, 0xDE6,
  0xE50, 0xED0, 0xF20, 0x1040, 0x1090, 0x17E0, 0x1810, 0x1946, 0x19D0, 0x1A80, 0x1A90, 0x1B50,
  0x1BB0, 0x1C40, 0x1C50, 0xA620, 0xA8D0, 0xA900, 0xA9D0, 0xA9F0, 0xAA50, 0xABF0, 0xFF10,
  0x104A0, 0x10D30, 0x11066, 0x110F0, 0x11136, 0x111D0, 0x112F0, 0x11450, 0x114D0, 0x11650,
  0x116C0, 0x11730, 0x118E0, 0x11950, 0x11C50, 0x11D50, 0x11DA0, 0x16A60, 0x16AC0, 0x16B50,
  0x1D7CE, 0x1D7D8, 0x1D7E2, 0x1D7EC, 0x1D7F6, 0x1E140, 0x1E2F0, 0x1E950, 0x1FBF0]

def digitValue? (c : Char) : Option Nat :=
  if c.toNat < 128 then
    if c.isDigit then some (c.toNat - '0'.toNat) else none
  else
    (digitZeros.find? fun base => base ≤ c.toNat && c.toNat < base + 10).map (c.toNat - ·)

def isDecimal (c : Char) : Bool := (digitValue? c).isSome

/-- The ASCII letter in lower case that a character stands for when case is ignored. -/
def folded (c : Char) : Char :=
  if c.toNat < 128 then c.toLower
  else if c == '\u017f' then 's'
  else if c == '\u212a' then 'k'
  else if c == '\u0130' || c == '\u0131' then 'i'
  else c

def isLetter (c : Char) : Bool := (folded c).isLower

def trimStart (text : List Char) : List Char := text.dropWhile isBlank

def trimEnd (text : List Char) : List Char := (text.reverse.dropWhile isBlank).reverse

def trim (text : List Char) : List Char := trimEnd (trimStart text)

def isBlankText (text : List Char) : Bool := text.all isBlank

def occursIn (word : List Char) : List Char → Bool
  | [] => word.isEmpty
  | c :: cs => word.isPrefixOf (c :: cs) || occursIn word cs

theorem occursIn_iff {word text : List Char} : occursIn word text = true ↔ word <:+: text := by
  induction text with
  | nil => rw [occursIn, List.isEmpty_iff, List.infix_nil]
  | cons c cs ih =>
    rw [occursIn, Bool.or_eq_true, List.isPrefixOf_iff_prefix, ih, List.infix_cons_iff]

def unifyNewlines : List Char → List Char
  | '\r' :: '\n' :: cs => '\n' :: unifyNewlines cs
  | '\r' :: cs => '\n' :: unifyNewlines cs
  | c :: cs => c :: unifyNewlines cs
  | [] => []

def hexDigits (width n : Nat) : String :=
  let digits := Nat.toDigits 16 n
  String.ofList (List.replicate (width - digits.length) '0' ++ digits)

def isShown (c : Char) : Bool :=
  let n := c.toNat
  c == ' ' || (0x20 < n && n < 0x7F) ||
    (0xA0 < n && n != 0xAD && !isBlank c && !(0x200B ≤ n && n ≤ 0x200F) &&
      !(0x202A ≤ n && n ≤ 0x202E) && !(0x2060 ≤ n && n ≤ 0x206F) &&
      !(0xE000 ≤ n && n ≤ 0xF8FF) && n != 0xFEFF && !(0xFFF0 ≤ n && n ≤ 0xFFFB) &&
      !(0xE0000 ≤ n))

def shownChar (quote c : Char) : String :=
  if c = quote ∨ c = '\\' then String.ofList ['\\', c]
  else if c = '\n' then "\\n" else if c = '\r' then "\\r" else if c = '\t' then "\\t"
  else if isShown c then String.singleton c
  else if c.toNat < 0x100 then "\\x" ++ hexDigits 2 c.toNat
  else if c.toNat < 0x10000 then "\\u" ++ hexDigits 4 c.toNat
  else "\\U" ++ hexDigits 8 c.toNat

def inQuotes (s : String) : String :=
  let cs := s.toList
  let quote := if cs.contains '\'' && !cs.contains '"' then '"' else '\''
  String.singleton quote ++ String.join (cs.map (shownChar quote)) ++ String.singleton quote

end QueryTuning.Text

namespace QueryTuning

def trimmed (s : String) : String := String.ofList (Text.trim s.toList)

def isBlankString (s : String) : Bool := Text.isBlankText s.toList

end QueryTuning
