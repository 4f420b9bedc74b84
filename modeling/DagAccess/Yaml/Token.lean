import DagAccess.Yaml.Scalar
import DagAccess.Text.Utf8

/-!
# Tokens of a YAML text

The tokens of a text are its scalars, names and marks, together with the starts and ends of block
collections, which follow from indentation alone.

That a scalar is a key shows only when a colon follows it on the same line. Where a key may stand, a
`Candidate` remembers the token, and the colon writes the opening of the key before that token. One
candidate is kept for the block level and one for each open flow collection.
-/

namespace DagAccess.Yaml

/-- The tokens of a text. -/
inductive Token
  | version
  | tagPrefix (handle leader : String)
  | documentStart
  | documentEnd
  | sequenceStart
  | mappingStart
  | blockEnd
  | flowSequenceStart
  | flowSequenceEnd
  | flowMappingStart
  | flowMappingEnd
  | entry
  | flowEntry
  | key
  | value
  | alias (name : String)
  | anchor (name : String)
  | tag (handle suffix : String)
  | scalar (text : String) (plain : Bool)
  deriving DecidableEq, Repr

/-! ## Names, tags and directives -/

/-- Reads the name of an anchor or an alias, which starts behind the mark. -/
def readName (c : Cursor) : Option (String × Cursor) :=
  let name := c.rest.takeWhile isNameChar
  let next := c.advance name.length
  let ends :=
    endsOr (fun d => isSpacing d || isBreak d || "?:,]\x7d%@`".toList.contains d) next.rest
  if name.isEmpty || !ends then none else some (String.ofList name, next)

/-- A character of a tag; flow marks are allowed in some places. -/
def isTagChar (flowMarks : Bool) (c : Char) : Bool :=
  isNameChar c || ";/?:@&=+$.!~*'()%".toList.contains c ||
    (flowMarks && (c = ',' || c = '[' || c = ']'))

/-- Replaces the escapes `%XX` of a tag by the bytes that they stand for. -/
def unescapeTag : List Char → Option (List UInt8)
  | [] => some []
  | '%' :: a :: b :: rest => do
    let n ← hexValue? [a, b]
    let bytes ← unescapeTag rest
    return UInt8.ofNat n :: bytes
  | '%' :: _ => none
  | ch :: rest => (unescapeTag rest).map (UInt8.ofNat ch.toNat :: ·)

/-- Reads the characters of a tag behind those in `start`. There has to be one character, or one in
`start`. -/
def readTagText (flowMarks : Bool) (start : List Char) (c : Cursor) : Option (String × Cursor) := do
  let text := c.rest.takeWhile (isTagChar flowMarks)
  if text.isEmpty && start.isEmpty then none
  let decoded ← (unescapeTag text).bind Utf8.decode?
  return (String.ofList (start.drop 1 ++ decoded), c.advance text.length)

/-- Reads the handle of a tag: a `!`, a name and a closing `!` if there is one. -/
def readHandle (c : Cursor) : Option (List Char × Cursor) :=
  match c.rest with
  | '!' :: rest =>
    let name := rest.takeWhile isNameChar
    let next := c.advance (name.length + 1)
    if next.rest.head? = some '!' then some ('!' :: name ++ ['!'], next.advance 1)
    else some ('!' :: name, next)
  | _ => none

/-- Reads a tag in one of its forms `!<text>`, `!handle!text`, `!text` and `!`. -/
def readTag (inFlow : Bool) (c : Cursor) : Option (Token × Cursor) := do
  let (handle, suffix, c) ←
    if (c.rest.drop 1).head? = some '<' then do
      let (suffix, c) ← readTagText true [] (c.advance 2)
      if c.rest.head? ≠ some '>' then none
      pure ("", suffix, c.advance 1)
    else do
      let (handle, next) ← readHandle c
      if 1 < handle.length && handle.getLast? = some '!' then
        let (suffix, next) ← readTagText false [] next
        pure (String.ofList handle, suffix, next)
      else
        let (suffix, next) ← readTagText false handle next
        pure (if suffix.isEmpty then ("", "!", next) else ("!", suffix, next))
  if breaksWord c.rest || (inFlow && c.rest.head? = some ',') then
    return (.tag handle suffix, c)
  else none

/-- Reads digits, at most nine. -/
def readVersionNumber (c : Cursor) : Option (Nat × Cursor) :=
  let digits := c.rest.takeWhile Char.isDigit
  if digits.isEmpty || 9 < digits.length then none
  else some (digits.foldl (fun n d => n * 10 + (d.toNat - 0x30)) 0, c.advance digits.length)

/-- Reads a directive up to the end of its line: a version, which has to be 1.1 or 1.2, or the
abbreviation of a tag. -/
def readDirective (c : Cursor) : Option (Token × Cursor) := do
  let c := c.advance 1
  let name := c.rest.takeWhile isNameChar
  let c := c.advance name.length
  if name.isEmpty || !breaksWord c.rest then none
  let c := c.skipWhile isSpacing
  let (token, c) ←
    if name = "YAML".toList then do
      let (major, c) ← readVersionNumber c
      if c.rest.head? ≠ some '.' then none
      let (minor, c) ← readVersionNumber (c.advance 1)
      if major ≠ 1 || (minor ≠ 1 && minor ≠ 2) then none
      pure (Token.version, c)
    else if name = "TAG".toList then do
      let (handle, c) ← readHandle c
      if handle ≠ ['!'] && handle.getLast? ≠ some '!' then none
      if !c.rest.head?.any isSpacing then none
      let (leader, c) ← readTagText true [] (c.skipWhile isSpacing)
      if !breaksWord c.rest then none
      pure (Token.tagPrefix (String.ofList handle) leader, c)
    else none
  let c := (c.skipWhile isSpacing).skipComment
  if breaksLine c.rest then return (token, c.skipBreak) else none

/-! ## The lexer -/

/-- A token that may turn out to start a key. -/
structure Candidate where
  slot : Nat
  index : Nat
  line : Nat
  column : Nat
  /-- Only a key can stand here. -/
  required : Bool

/-- A token with the openings that were written before it. -/
structure Slot where
  openings : List Token := []
  token : Token

/-- How far a text is read. -/
structure Lexer where
  cursor : Cursor
  slots : Array Slot := #[]
  /-- The column of the innermost open block collection. -/
  indent : Int := -1
  /-- The columns of the enclosing ones. -/
  outer : List Int := []
  /-- The candidate of the present level. -/
  candidate : Option Candidate := none
  /-- The candidates of the enclosing levels. -/
  enclosing : List (Option Candidate) := []
  /-- A key may start at the next token. -/
  keyAllowed : Bool := true

namespace Lexer

/-- A flow collection is open. -/
def inFlow (l : Lexer) : Bool :=
  !l.enclosing.isEmpty

/-- Adds a token and goes on at a place. -/
def push (l : Lexer) (token : Token) (next : Cursor) : Lexer :=
  { l with slots := l.slots.push { token }, cursor := next }

/-- A candidate is out of date when the line is over or 1024 characters have passed; where only a
key can stand that is an error. -/
def refresh (c : Cursor) (candidate : Option Candidate) : Option (Option Candidate) :=
  match candidate with
  | none => some none
  | some k =>
    if k.line < c.line || k.index + 1024 < c.index then
      if k.required then none else some none
    else some (some k)

/-- Forgets the candidates that are out of date. -/
def refreshAll (l : Lexer) : Option Lexer := do
  let candidate ← refresh l.cursor l.candidate
  let enclosing ← l.enclosing.mapM (refresh l.cursor)
  return { l with candidate, enclosing }

/-- Forgets the present candidate, unless only a key can stand there. -/
def dropCandidate (l : Lexer) : Option Lexer :=
  if l.candidate.any (·.required) then none else some { l with candidate := none }

/-- Makes the next token a candidate, if a key may start there. -/
def saveCandidate (l : Lexer) : Option Lexer :=
  if l.keyAllowed then do
    let required := !l.inFlow && l.indent = l.cursor.column
    let c := l.cursor
    let k : Candidate := ⟨l.slots.size, c.index, c.line, c.column, required⟩
    let l ← l.dropCandidate
    return { l with candidate := some k }
  else some l

/-- Opens a block collection if the column is deeper than the present one; says whether it did. -/
def indentTo (l : Lexer) (column : Nat) : Lexer × Bool :=
  if !l.inFlow && l.indent < column then
    ({ l with indent := column, outer := l.indent :: l.outer }, true)
  else (l, false)

/-- Opens a block collection at the present column, if it is deeper. -/
def openBlock (l : Lexer) (start : Token) : Lexer :=
  match l.indentTo l.cursor.column with
  | (l, true) => l.push start l.cursor
  | (l, false) => l

/-- Ends the block collections that are deeper than the column; `outer` are the enclosing
columns. -/
def unwind (column : Int) (slots : Array Slot) (indent : Int) :
    List Int → Array Slot × Int × List Int
  | [] => (slots, indent, [])
  | o :: outer =>
    if column < indent then unwind column (slots.push { token := .blockEnd }) o outer
    else (slots, indent, o :: outer)

/-- Ends the block collections that are deeper than the column. -/
def dedentTo (l : Lexer) (column : Int) : Lexer :=
  if l.inFlow then l
  else
    let (slots, indent, outer) := unwind column l.slots l.indent l.outer
    { l with slots, indent, outer }

/-- Passes blanks, comments and line ends before the next token. -/
def skipToToken : (fuel : Nat) → Lexer → Lexer
  | 0, l => l
  | fuel + 1, l =>
    let c := l.cursor
    let c := if c.column = 0 && c.rest.head? = some '\uFEFF' then c.advance 1 else c
    let tabs := l.inFlow || !l.keyAllowed
    let c := (c.skipWhile fun ch => ch = ' ' || (tabs && ch = '\t')).skipComment
    match c.rest with
    | ch :: _ =>
      if isBreak ch then
        skipToToken fuel { l with cursor := c.skipBreak, keyAllowed := l.keyAllowed || !l.inFlow }
      else { l with cursor := c }
    | [] => { l with cursor := c }

/-- Leaves all block collections, as documents begin and end outside of them. -/
def leaveBlocks (l : Lexer) : Option Lexer := do
  let l ← (l.dedentTo (-1)).dropCandidate
  return { l with keyAllowed := false }

/-- Reads the colon after a key. -/
def readValue (l : Lexer) : Option Lexer :=
  match l.candidate with
  | some k =>
    let (l, opened) := l.indentTo k.column
    let openings := if opened then [Token.mappingStart, .key] else [.key]
    let slots := l.slots.modify k.slot fun s => { s with openings }
    some ({ l with slots, candidate := none, keyAllowed := false }.push .value (l.cursor.advance 1))
  | none =>
    if l.inFlow then some ({ l with keyAllowed := false }.push .value (l.cursor.advance 1))
    else if l.keyAllowed then some ((l.openBlock .mappingStart).push .value (l.cursor.advance 1))
    else none

/-- Reads the mark of a sequence entry or of an explicit key. -/
def readEntry (l : Lexer) (start mark : Token) (keyInFlow : Bool) : Option Lexer := do
  if !l.inFlow && !l.keyAllowed then none
  let l := if l.inFlow then l else l.openBlock start
  let l ← l.dropCandidate
  return { l with keyAllowed := !l.inFlow || keyInFlow }.push mark (l.cursor.advance 1)

/-- Reads the start of a flow collection. -/
def openFlow (l : Lexer) (mark : Token) : Option Lexer := do
  let l ← l.saveCandidate
  return { l with
    candidate := none
    enclosing := l.candidate :: l.enclosing
    keyAllowed := true }.push mark (l.cursor.advance 1)

/-- Reads the end of a flow collection. -/
def closeFlow (l : Lexer) (mark : Token) : Option Lexer := do
  let l ← l.dropCandidate
  let l := match l.enclosing with
    | [] => l
    | k :: enclosing => { l with candidate := k, enclosing }
  return { l with keyAllowed := false }.push mark (l.cursor.advance 1)

/-- Reads a token that a key may start with. -/
def readNode (l : Lexer) (read : Cursor → Option (Token × Cursor)) : Option Lexer := do
  let l ← l.saveCandidate
  let (token, next) ← read l.cursor
  return { l with keyAllowed := false }.push token next

/-- Reads a plain scalar. A key may start after it if it ends on a new line. -/
def readPlainNode (l : Lexer) : Option Lexer := do
  let l ← l.saveCandidate
  let (text, newLine, next) ← readPlain l.inFlow (l.indent + 1).toNat l.cursor
  return { l with keyAllowed := newLine }.push (.scalar (String.ofList text) true) next

/-- Reads a block scalar. -/
def readBlockNode (l : Lexer) (literal : Bool) : Option Lexer := do
  let l ← l.dropCandidate
  let (text, next) ← readBlock literal l.indent l.cursor
  return { l with keyAllowed := true }.push (.scalar (String.ofList text) false) next

/-- Characters with a meaning of their own at the start of a token. -/
def isIndicator (c : Char) : Bool :=
  "-?:,[]\x7b\x7d#&*!|>'\"%@`".toList.contains c

/-- A plain scalar may start with this character. -/
def startsPlain (inFlow : Bool) (ch : Char) (rest : List Char) : Bool :=
  (!isIndicator ch && !isSpacing ch) || (ch = '-' && !rest.head?.any isSpacing)
    || (!inFlow && (ch = '?' || ch = ':') && !breaksWord rest)

/-- Reads the token that starts with a character. -/
def readToken (l : Lexer) (ch : Char) (rest : List Char) : Option Lexer :=
  let c := l.cursor
  if c.column = 0 && ch = '%' then do
    let l ← l.leaveBlocks
    let (token, next) ← readDirective c
    return l.push token next
  else if c.atDocumentMark then do
    let l ← l.leaveBlocks
    return l.push (if ch = '-' then .documentStart else .documentEnd) (c.advance 3)
  else match ch with
    | '[' => l.openFlow .flowSequenceStart
    | '\x7b' => l.openFlow .flowMappingStart
    | ']' => l.closeFlow .flowSequenceEnd
    | '\x7d' => l.closeFlow .flowMappingEnd
    | ',' => do
      let l ← l.dropCandidate
      return { l with keyAllowed := true }.push .flowEntry (c.advance 1)
    | '*' =>
      l.readNode fun c => (readName (c.advance 1)).map fun (name, next) => (.alias name, next)
    | '&' =>
      l.readNode fun c => (readName (c.advance 1)).map fun (name, next) => (.anchor name, next)
    | '!' => l.readNode (readTag l.inFlow)
    | '\'' => l.readNode fun c =>
      (readQuoted true c).map fun (text, next) => (.scalar (String.ofList text) false, next)
    | '"' => l.readNode fun c =>
      (readQuoted false c).map fun (text, next) => (.scalar (String.ofList text) false, next)
    | _ =>
      if ch = '-' && breaksWord rest then l.readEntry .sequenceStart .entry true
      else if ch = '?' && (l.inFlow || breaksWord rest) then l.readEntry .mappingStart .key false
      else if ch = ':' && (l.inFlow || breaksWord rest) then l.readValue
      else if ch = '|' && !l.inFlow then l.readBlockNode true
      else if ch = '>' && !l.inFlow then l.readBlockNode false
      else if startsPlain l.inFlow ch rest then l.readPlainNode
      else none

/-- Reads all tokens. -/
def run : (fuel : Nat) → Lexer → Option Lexer
  | 0, _ => none
  | fuel + 1, l => do
    let l ← (skipToToken (l.cursor.rest.length + 1) l).refreshAll
    let l := l.dedentTo l.cursor.column
    match l.cursor.rest with
    | [] => l.leaveBlocks
    | ch :: rest => (l.readToken ch rest).bind (run fuel)

end Lexer

/-- The tokens of a text, or nothing if it has none. -/
def tokenize (cs : List Char) : Option (List Token) := do
  let cs := match cs with
    | '\uFEFF' :: rest => rest
    | cs => cs
  if !cs.all isAllowed then none
  let l ← Lexer.run (cs.length + 2) { cursor := { rest := cs } }
  return l.slots.toList.flatMap fun s => s.openings ++ [s.token]

end DagAccess.Yaml
