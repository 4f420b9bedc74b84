import DagAccess.Yaml.Cursor

/-!
# Scalars in a YAML text

Each of the five ways to write a scalar has a reader, which starts at the first character of the
scalar and gives its text and the place after it, or nothing if the scalar is malformed. Line ends
inside plain and quoted scalars are folded; block scalars keep them or fold them, and may drop the
last ones.
-/

namespace DagAccess.Yaml

/-! ## Plain scalars -/

/-- The characters that open and close flow collections, and the comma between their items. -/
def isFlowMark (c : Char) : Bool :=
  c = ',' || c = '[' || c = ']' || c = '\x7b' || c = '\x7d'

/-- Reads characters of a plain scalar up to a blank or to what ends it. In a flow collection, a
colon directly before a flow mark is refused. -/
def plainWord (inFlow : Bool) : List Char → Option (List Char)
  | [] => some []
  | ch :: rest =>
    if isSpacing ch || isBreak ch then some []
    else if inFlow && ch = ':' && rest.head?.any (fun d => isFlowMark d || d = '?') then none
    else if (ch = ':' && breaksWord rest) || (inFlow && isFlowMark ch) then some []
    else (plainWord inFlow rest).map (ch :: ·)

/-- Reads on with a plain scalar after `text` and a gap; also tells whether it ended on a new
line. -/
def plainFrom (inFlow : Bool) (indent : Nat) :
    (fuel : Nat) → (text : List Char) → Gap → Cursor → Option (List Char × Bool × Cursor)
  | 0, text, gap, c => some (text, gap.broken, c)
  | fuel + 1, text, gap, c =>
    if c.atDocumentMark || c.rest.head? = some '#' then some (text, gap.broken, c)
    else do
      let word ← plainWord inFlow c.rest
      if word.isEmpty then return (text, gap.broken, c)
      let text := text ++ gap.folded ++ word
      let (gap, c) ← Gap.read indent (c.rest.length + 1) {} (c.advance word.length)
      if gap.spaces.isEmpty && !gap.broken then return (text, false, c)
      if !inFlow && c.column < indent then return (text, gap.broken, c)
      plainFrom inFlow indent fuel text gap c

/-- Reads a plain scalar: its text, whether a new line began after it, and the place after it. -/
def readPlain (inFlow : Bool) (indent : Nat) (c : Cursor) : Option (List Char × Bool × Cursor) :=
  plainFrom inFlow indent (c.rest.length + 1) [] {} c

/-! ## Quoted scalars -/

/-- The value of a digit in base 16. -/
def hexDigit? (c : Char) : Option Nat :=
  if '0' ≤ c && c ≤ '9' then some (c.toNat - 0x30)
  else if 'a' ≤ c && c ≤ 'f' then some (c.toNat - 0x57)
  else if 'A' ≤ c && c ≤ 'F' then some (c.toNat - 0x37)
  else none

/-- The value of digits in base 16. -/
def hexValue? (cs : List Char) : Option Nat :=
  cs.foldlM (fun n c => (hexDigit? c).map (n * 16 + ·)) 0

/-- The character that an escape letter stands for. -/
def escaped? : Char → Option Char
  | '0' => some '\x00'
  | 'a' => some '\x07'
  | 'b' => some '\x08'
  | 't' => some '\t'
  | '\t' => some '\t'
  | 'n' => some '\n'
  | 'v' => some '\x0b'
  | 'f' => some '\x0c'
  | 'r' => some '\r'
  | 'e' => some '\x1b'
  | ' ' => some ' '
  | '"' => some '"'
  | '/' => some '/'
  | '\\' => some '\\'
  | 'N' => some '\u0085'
  | '_' => some '\u00a0'
  | 'L' => some '\u2028'
  | 'P' => some '\u2029'
  | _ => none

/-- The number of digits after an escape letter. -/
def escapeWidth? : Char → Option Nat
  | 'x' => some 2
  | 'u' => some 4
  | 'U' => some 8
  | _ => none

/-- What follows a backslash: the character that it stands for, and how many characters write it. -/
def readEscape : List Char → Option (Char × Nat)
  | [] => none
  | ch :: rest =>
    match escapeWidth? ch with
    | none => (escaped? ch).map (·, 1)
    | some width => do
      let digits := rest.take width
      if digits.length < width then none
      let n ← hexValue? digits
      if (0xD800 ≤ n && n ≤ 0xDFFF) || 0x10FFFF < n then none
      return (Char.ofNat n, width + 1)

/-- A run of characters without a blank between quotes. -/
structure QuotedWord where
  text : List Char
  next : Cursor
  /-- An escaped line end was passed. -/
  joined : Bool

/-- Reads up to a blank, to the closing quote or past an escaped line end. -/
def quotedWord (single : Bool) : (fuel : Nat) → List Char → Cursor → Option QuotedWord
  | 0, text, c => some ⟨text, c, false⟩
  | fuel + 1, text, c =>
    let quote := if single then '\'' else '"'
    match c.rest with
    | [] => some ⟨text, c, false⟩
    | ch :: rest =>
      if isSpacing ch || isBreak ch then some ⟨text, c, false⟩
      else if ch = quote then
        if single && rest.head? = some '\'' then
          quotedWord single fuel (text ++ ['\'']) (c.advance 2)
        else some ⟨text, c, false⟩
      else if !single && ch = '\\' then
        if rest.head?.any isBreak then some ⟨text, (c.advance 1).skipBreak, true⟩
        else do
          let (value, width) ← readEscape rest
          quotedWord single fuel (text ++ [value]) (c.advance (width + 1))
      else quotedWord single fuel (text ++ [ch]) (c.advance 1)

/-- Reads on with a quoted scalar after `text`. -/
def quotedFrom (single : Bool) : (fuel : Nat) → List Char → Cursor → Option (List Char × Cursor)
  | 0, _, _ => none
  | fuel + 1, text, c =>
    if c.atDocumentMark || c.rest.isEmpty then none
    else do
      let word ← quotedWord single (c.rest.length + 1) text c
      let quote := if single then '\'' else '"'
      if word.next.rest.head? = some quote then return (word.text, word.next.advance 1)
      let (gap, c) ← Gap.read 0 (word.next.rest.length + 1) { broken := word.joined } word.next
      quotedFrom single fuel (word.text ++ gap.folded) c

/-- Reads a quoted scalar. -/
def readQuoted (single : Bool) (c : Cursor) : Option (List Char × Cursor) :=
  quotedFrom single (c.rest.length + 1) [] (c.advance 1)

/-! ## Block scalars -/

/-- What becomes of the line ends at the end of a block scalar. -/
inductive Chomping
  /-- All are dropped. -/
  | strip
  /-- One stays. -/
  | clip
  /-- All stay. -/
  | keep
  deriving DecidableEq, Repr

/-- The sign of a chomping. -/
def chomping? : Char → Option Chomping
  | '+' => some .keep
  | '-' => some .strip
  | _ => none

/-- Reads the indentation and the chomping after the mark of a block scalar, in either order. -/
def readBlockHeader (c : Cursor) : Option (Chomping × Nat × Cursor) := do
  let digit (c : Cursor) : Option (Nat × Cursor) :=
    match c.rest with
    | ch :: _ =>
      if ch = '0' then none
      else if ch.isDigit then some (ch.toNat - 0x30, c.advance 1)
      else some (0, c)
    | [] => some (0, c)
  let sign (c : Cursor) : Option Chomping := c.rest.head?.bind chomping?
  match sign c with
  | some chomping =>
    let (indent, c) ← digit (c.advance 1)
    return (chomping, indent, c)
  | none =>
    let (indent, c) ← digit c
    match sign c with
    | some chomping => return (chomping, indent, c.advance 1)
    | none => return (.clip, indent, c)

/-- Line ends before the next line of a block scalar, the greatest column met, and the place. -/
structure BlockBreaks where
  text : List Char
  widest : Nat
  next : Cursor

/-- Passes indentation and empty lines. An indentation of zero is not known yet. -/
def blockBreaks (indent : Nat) : (fuel : Nat) → BlockBreaks → Option BlockBreaks
  | 0, b => some b
  | fuel + 1, b =>
    let c := b.next
    let spaces := (c.rest.takeWhile (· = ' ')).length
    let c := c.advance (if indent = 0 then spaces else min spaces (indent - c.column))
    let b := { b with widest := max b.widest c.column, next := c }
    match c.rest with
    | [] => some b
    | ch :: _ =>
      if (indent = 0 || c.column < indent) && ch = '\t' then none
      else if isBreak ch then
        let (text, next) := c.takeBreak
        blockBreaks indent fuel { b with text := b.text ++ text, next }
      else some b

/-- Reads the lines of a block scalar. -/
def blockLines (literal : Bool) (chomping : Chomping) (indent : Nat) :
    (fuel : Nat) → (text lead : List Char) → (leadBlank : Bool) → BlockBreaks →
      Option (List Char × Cursor)
  | 0, _, _, _, _ => none
  | fuel + 1, text, lead, leadBlank, b =>
    let c := b.next
    if c.column ≠ indent || c.rest.isEmpty then
      let kept := match chomping with
        | .strip => []
        | .clip => lead
        | .keep => lead ++ b.text
      some (text ++ kept, c)
    else do
      let startsBlank := c.rest.head?.any isSpacing
      let joint :=
        if !literal && lead = ['\n'] && !leadBlank && !startsBlank then
          (if b.text.isEmpty then [' '] else [])
        else lead
      let line := c.rest.takeWhile (!isBreak ·)
      let (lead, next) := (c.advance line.length).takeBreak
      let after ← blockBreaks indent (next.rest.length + 1) ⟨[], 0, next⟩
      blockLines literal chomping indent fuel
        (text ++ joint ++ b.text ++ line) lead startsBlank after

/-- Reads a block scalar in a block whose indentation is `parent`, −1 at the outermost level. -/
def readBlock (literal : Bool) (parent : Int) (c : Cursor) : Option (List Char × Cursor) := do
  let (chomping, increment, c) ← readBlockHeader (c.advance 1)
  let c := (c.skipWhile isSpacing).skipComment
  if !breaksLine c.rest then none
  let c := c.skipBreak
  let known := if increment = 0 then 0 else parent.toNat + increment
  let b ← blockBreaks known (c.rest.length + 1) ⟨[], 0, c⟩
  let indent := if known = 0 then max b.widest (max (parent + 1).toNat 1) else known
  blockLines literal chomping indent (c.rest.length + 2) [] [] false b

end DagAccess.Yaml
