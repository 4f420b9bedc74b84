import DagAccess.Text.Classes

/-!
# Quoted texts

Messages show texts, lists of texts and byte strings between quotes. The quote is `'`, unless the
text holds `'` and no `"`. The backslash, the quote, newline, return and tab are written with a
backslash, every other unprintable character by the number of its code point.
-/

namespace DagAccess.Text

/-- The last `width` digits of a number in base 16. -/
def hexDigits : (width : Nat) → (n : Nat) → List Char
  | 0, _ => []
  | width + 1, n => hexDigits width (n / 16) ++ [Nat.digitChar (n % 16)]

/-- The quote for a text, told whether single and double quotes occur in it. -/
def quoteFor (single double : Bool) : Char :=
  if single && !double then '"' else '\''

/-- The escapes that quoted characters and quoted bytes share. -/
def commonEscape? (quote c : Char) : Option (List Char) :=
  if c = quote || c = '\\' then some ['\\', c]
  else if c = '\n' then some ['\\', 'n']
  else if c = '\r' then some ['\\', 'r']
  else if c = '\t' then some ['\\', 't']
  else none

/-- One character between quotes. -/
def quotedChar (quote c : Char) : List Char :=
  match commonEscape? quote c with
  | some escape => escape
  | none =>
    if isPrintable c then [c]
    else if c.toNat < 0x100 then '\\' :: 'x' :: hexDigits 2 c.toNat
    else if c.toNat < 0x10000 then '\\' :: 'u' :: hexDigits 4 c.toNat
    else '\\' :: 'U' :: hexDigits 8 c.toNat

/-- A text between quotes. -/
def quoted (s : String) : String :=
  let cs := s.toList
  let quote := quoteFor (cs.contains '\'') (cs.contains '"')
  String.ofList (quote :: cs.flatMap (quotedChar quote) ++ [quote])

/-- One byte between quotes. -/
def quotedByte (quote : Char) (b : UInt8) : List Char :=
  let c := Char.ofNat b.toNat
  match commonEscape? quote c with
  | some escape => escape
  | none =>
    if 0x20 ≤ b.toNat && b.toNat < 0x7F then [c] else '\\' :: 'x' :: hexDigits 2 b.toNat

/-- A byte string, written with a leading `b`. -/
def quotedBytes (bs : List UInt8) : String :=
  let quote := quoteFor (bs.contains 0x27) (bs.contains 0x22)
  String.ofList ('b' :: quote :: bs.flatMap (quotedByte quote) ++ [quote])

/-- Items between brackets, with a comma and a space between them. -/
def bracketed (items : List String) : String :=
  "[" ++ ", ".intercalate items ++ "]"

/-- A list of texts. -/
def quotedList (ss : List String) : String :=
  bracketed (ss.map quoted)

end DagAccess.Text
