/-!
# Places in a YAML text

A cursor is the rest of a text with the position that it starts at. Lines end with a newline, a
return or both, or with one of the characters U+0085, U+2028 and U+2029.
-/

namespace DagAccess.Yaml

/-- Ends a line. -/
def isBreak (c : Char) : Bool :=
  c = '\n' || c = '\r' || c = '\u0085' || c = '\u2028' || c = '\u2029'

/-- A space or a tab. -/
def isSpacing (c : Char) : Bool :=
  c = ' ' || c = '\t'

/-- A character that names are made of. -/
def isNameChar (c : Char) : Bool :=
  c.isAlphanum || c = '_' || c = '-'

/-- A character that may stand in a text. -/
def isAllowed (c : Char) : Bool :=
  let n := c.toNat
  n = 0x9 || n = 0xA || n = 0xD || (0x20 ≤ n && n ≤ 0x7E) || n = 0x85 || (0xA0 ≤ n && n ≤ 0xD7FF)
    || (0xE000 ≤ n && n ≤ 0xFFFD) || 0x10000 ≤ n

/-- The end of the text, or a character of the class, comes first. -/
def endsOr (p : Char → Bool) : List Char → Bool
  | [] => true
  | c :: _ => p c

/-- A blank, a line end or the end of the text comes first. -/
def breaksWord : List Char → Bool :=
  endsOr fun c => isSpacing c || isBreak c

/-- A line end or the end of the text comes first. -/
def breaksLine : List Char → Bool :=
  endsOr isBreak

/-- A place in a text. -/
structure Cursor where
  rest : List Char
  index : Nat := 0
  line : Nat := 0
  column : Nat := 0

namespace Cursor

/-- Passes characters of the present line. -/
def advance (c : Cursor) (n : Nat) : Cursor :=
  { c with rest := c.rest.drop n, index := c.index + n, column := c.column + n }

/-- Passes the characters of a class that come first; none of them ends a line. -/
def skipWhile (c : Cursor) (p : Char → Bool) : Cursor :=
  c.advance (c.rest.takeWhile p).length

/-- Reads a line end: the characters that it stands for in a scalar, and the place after it. -/
def takeBreak (c : Cursor) : List Char × Cursor :=
  let next (n : Nat) : Cursor :=
    { rest := c.rest.drop n, index := c.index + n, line := c.line + 1, column := 0 }
  match c.rest with
  | '\r' :: '\n' :: _ => (['\n'], next 2)
  | '\u2028' :: _ => (['\u2028'], next 1)
  | '\u2029' :: _ => (['\u2029'], next 1)
  | ch :: _ => if isBreak ch then (['\n'], next 1) else ([], c)
  | [] => ([], c)

/-- Passes a line end. -/
def skipBreak (c : Cursor) : Cursor :=
  c.takeBreak.2

/-- Passes a comment up to the end of its line. -/
def skipComment (c : Cursor) : Cursor :=
  if c.rest.head? = some '#' then c.skipWhile (!isBreak ·) else c

/-- Three dashes or three dots stand at the start of a line, with no word right after them. -/
def atDocumentMark (c : Cursor) : Bool :=
  c.column = 0 && (c.rest.take 3 = ['-', '-', '-'] || c.rest.take 3 = ['.', '.', '.'])
    && breaksWord (c.rest.drop 3)

end Cursor

/-- Blanks and line ends between the words of a scalar. -/
structure Gap where
  /-- Blanks before the first line end. -/
  spaces : List Char := []
  /-- The first line end. -/
  lead : List Char := []
  /-- The other line ends. -/
  more : List Char := []
  /-- A line end was passed. -/
  broken : Bool := false

/-- What the gap stands for: a single newline becomes a space, further ones stay. -/
def Gap.folded (g : Gap) : List Char :=
  if !g.broken then g.spaces
  else if g.lead = ['\n'] then (if g.more.isEmpty then [' '] else g.more)
  else g.lead ++ g.more

/-- Reads a gap. Within a line that starts left of column `limit` a tab ends the reading with
nothing. -/
def Gap.read (limit : Nat) : (fuel : Nat) → Gap → Cursor → Option (Gap × Cursor)
  | 0, g, c => some (g, c)
  | fuel + 1, g, c =>
    match c.rest with
    | [] => some (g, c)
    | ch :: _ =>
      if isSpacing ch then
        if g.broken then
          if ch = '\t' && c.column < limit then none else Gap.read limit fuel g (c.advance 1)
        else Gap.read limit fuel { g with spaces := g.spaces ++ [ch] } (c.advance 1)
      else if isBreak ch then
        let (text, next) := c.takeBreak
        if g.broken then Gap.read limit fuel { g with more := g.more ++ text } next
        else Gap.read limit fuel { lead := text, broken := true } next
      else some (g, c)

end DagAccess.Yaml
