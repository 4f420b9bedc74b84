import DagAccess.Ini
import DagAccess.Text.Utf8

/-!
# Reading sectioned documents

A document is read line by line onto what earlier texts have set. A line in brackets starts a
section, a line with `=` or `:` sets an option, a line indented deeper than the option goes on with
its value, and a line that starts with `#` or `;` is a comment. A blank line belongs to the value
before it.

The names of options are put into a normal form, which is the one in small letters unless a reader
has another one.

A line without a delimiter is remembered and reported after the last line. A repeated section or
option and an option before the first section end the reading at once, and the values of this text
stay unfinished.
-/

namespace DagAccess.Ini

/-- Why a text is not read as a document. -/
inductive Fault
  | duplicateOption (source : String) (line : Nat) (section_ option : String)
  | duplicateSection (source : String) (line : Nat) (section_ : String)
  | missingHeader (source : String) (line : Nat) (text : String)
  /-- Lines that are neither headers nor options. -/
  | malformed (source : String) (lines : List (Nat × String))
  /-- The bytes are no UTF-8. -/
  | undecodable
  deriving DecidableEq, Repr

/-- A line number of at least two characters. -/
def lineNumber (n : Nat) : String :=
  let s := toString n
  "".pushn ' ' (2 - s.length) ++ s

/-- What is wrong, in words. -/
def Fault.message : Fault → String
  | .duplicateOption source line section_ option =>
    "While reading from " ++ Text.quoted source ++ " [line " ++ lineNumber line ++ "]: option "
      ++ Text.quoted option ++ " in section " ++ Text.quoted section_ ++ " already exists"
  | .duplicateSection source line section_ =>
    "While reading from " ++ Text.quoted source ++ " [line " ++ lineNumber line ++ "]: section "
      ++ Text.quoted section_ ++ " already exists"
  | .missingHeader source line text =>
    "File contains no section headers.\nfile: " ++ Text.quoted source ++ ", line: " ++ toString line
      ++ "\n" ++ Text.quoted text
  | .malformed source lines =>
    "Source contains parsing errors: " ++ Text.quoted source
      ++ String.join (lines.map fun (n, text) =>
        "\n\t[line " ++ lineNumber n ++ "]: " ++ Text.quoted text)
  | .undecodable => "the text is not UTF-8"

/-! ## Lines -/

/-- What a line is, once comments and blank lines are set apart. -/
inductive Line
  | comment
  | blank
  /-- A trimmed text behind so many blanks. -/
  | content (indent : Nat) (text : List Char)

/-- Tells comments and blank lines from others. -/
def Line.ofChars (cs : List Char) : Line :=
  let text := Text.trim Text.isBlank cs
  match text with
  | [] => .blank
  | c :: _ =>
    if c = '#' || c = ';' then .comment
    else .content (cs.takeWhile Text.isBlank).length text

/-- The name in a section header: what stands between the bracket at the start and the last closing
bracket, if that is something. -/
def headerName? (text : List Char) : Option String :=
  match text with
  | '[' :: rest =>
    match (rest.reverse.dropWhile (· ≠ ']')).drop 1 with
    | [] => none
    | name => some (String.ofList name.reverse)
  | _ => none

/-- The trimmed texts before and after the first delimiter. -/
def delimited? (text : List Char) : Option (List Char × List Char) :=
  match text.span fun c => !(c = '=' || c = ':') with
  | (_, []) => none
  | (name, _ :: value) => some (Text.trimRight Text.isBlank name, Text.trim Text.isBlank value)

/-! ## Reading -/

/-- Adds a line to the value of an option, if that is not finished. -/
def Entries.extend (es : Entries) (option line : String) : Entries :=
  match es.lookup option with
  | some (.lines ls) => es.put option (.lines (ls ++ [line]))
  | _ => es

/-- How far a text is read. -/
structure Progress where
  document : Document
  /-- The present section. -/
  current : Option String := none
  /-- The option that further lines belong to, if it has a name. -/
  option : Option String := none
  indent : Nat := 0
  sections : List String := []
  options : List (String × String) := []
  malformed : List (Nat × String) := []

namespace Progress

/-- Goes on with the value of the present option. -/
def extend (p : Progress) (section_ option line : String) : Progress :=
  { p with document := p.document.update section_ (·.extend option line) }

/-- Starts a section. -/
def header (p : Progress) (source : String) (n : Nat) (name : String) : Except Fault Progress :=
  let started := { p with current := some name, option := none }
  if p.document.hasSection name then
    if p.sections.contains name then .error (.duplicateSection source n name)
    else .ok { started with sections := name :: p.sections }
  else if name = defaultName then .ok started
  else .ok { started with
    document := p.document.update name id
    sections := name :: p.sections }

/-- Sets an option of the section. An option without a name is set and reported. -/
def assign (normal : String → String) (p : Progress) (source : String) (n : Nat)
    (raw section_ : String) (name value : List Char) : Except Fault Progress :=
  let option := normal (String.ofList name)
  let malformed := if name.isEmpty then p.malformed ++ [(n, raw)] else p.malformed
  if p.options.contains (section_, option) then .error (.duplicateOption source n section_ option)
  else .ok { p with
    document := p.document.update section_ (·.put option (.lines [String.ofList value]))
    option := if option = "" then none else some option
    options := (section_, option) :: p.options
    malformed }

/-- Reads a trimmed line that does not go on with a value. -/
def fresh (normal : String → String) (source : String) (p : Progress) (n : Nat) (raw : String)
    (text : List Char) : Except Fault Progress :=
  match headerName? text with
  | some name => p.header source n name
  | none =>
    match p.current with
    | none => .error (.missingHeader source n raw)
    | some section_ =>
      match delimited? text with
      | some (name, value) => p.assign normal source n raw section_ name value
      | none => .ok { p with malformed := p.malformed ++ [(n, raw)] }

/-- Reads one line. -/
def line (normal : String → String) (source : String) (p : Progress) (n : Nat) (cs : List Char) :
    Except Fault Progress :=
  match Line.ofChars cs with
  | .comment => .ok p
  | .blank =>
    match p.current, p.option with
    | some section_, some option => .ok (p.extend section_ option "")
    | _, _ => .ok p
  | .content indent text =>
    let fresh := { p with indent }.fresh normal source n (String.ofList cs) text
    match p.current, p.option with
    | some section_, some option =>
      if p.indent < indent then .ok (p.extend section_ option (String.ofList text)) else fresh
    | _, _ => fresh

/-- Reads lines, the first of which has the number `n`; the document is what was read before a
fault. -/
def lines (normal : String → String) (source : String) (p : Progress) (n : Nat) :
    List (List Char) → Progress × Option Fault
  | [] => (p, none)
  | cs :: rest =>
    match p.line normal source n cs with
    | .ok q => lines normal source q (n + 1) rest
    | .error fault => (p, some fault)

end Progress

/-- The lines of a source; `damaged` says that what follows them cannot be decoded. -/
structure Source where
  name : String
  lines : List (List Char)
  damaged : Bool := false

/-- A text in memory, whose lines end with newlines only. -/
def Source.ofText (name : String) (text : String) : Source :=
  { name, lines := Text.Lines.ofChars text.toList }

/-- The bytes of a file. -/
def Source.ofBytes (name : String) (bytes : List UInt8) : Source :=
  let (cs, complete) := Utf8.decodeBlocks bytes
  if complete then { name, lines := Text.Lines.ofChars (Text.unifyNewlines cs) }
  else
    let whole := match cs.getLast? with
      | some '\r' => cs.dropLast
      | _ => cs
    let lines := Text.Lines.ofChars (Text.unifyNewlines whole)
    { name, lines := lines.filter (·.getLast? = some '\n'), damaged := true }

/-- Reads a source onto a document, with the names of options in a normal form. With a fault comes
what was read before it. -/
def Document.readWith (normal : String → String) (d : Document) (s : Source) :
    Document × Option Fault :=
  match Progress.lines normal s.name { document := d } 1 s.lines with
  | (p, some fault) => (p.document, some fault)
  | (p, none) =>
    if s.damaged then (p.document, some .undecodable)
    else if p.malformed.isEmpty then (p.document.finish, none)
    else (p.document.finish, some (.malformed s.name p.malformed))

/-- Reads a source onto a document, with the names of options in small letters. -/
def Document.read (d : Document) (s : Source) : Document × Option Fault :=
  d.readWith Text.lower s

end DagAccess.Ini
