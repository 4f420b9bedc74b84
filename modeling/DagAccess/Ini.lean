import DagAccess.Assoc
import DagAccess.Text.Case
import DagAccess.Text.Blank
import DagAccess.Text.Quoted

/-!
# Sectioned configuration documents

A document has sections of options with texts, and default options that count in every section.
Option names are compared in small letters, section names exactly. A value of a document whose
reading was broken off is still a list of lines; using it as a text is a `Misuse`.
-/

namespace DagAccess.Ini

/-- The value of an option. -/
inductive Value
  | text (s : String)
  /-- The lines of a value that was never finished. -/
  | lines (ls : List String)
  deriving DecidableEq, Repr

/-- What is done with the lines of an unfinished value as if they were a text. -/
inductive Misuse
  /-- A text operation of this name. -/
  | operation (name : String)
  | search
  | key
  | number
  deriving DecidableEq, Repr

/-- What is wrong, in words. -/
def Misuse.message : Misuse → String
  | .operation name => "'list' object has no attribute " ++ Text.quoted name
  | .search => "expected string or bytes-like object, got 'list'"
  | .key => "unhashable type: 'list'"
  | .number => "int() argument must be a string, a bytes-like object or a real number, not 'list'"

/-- The text of a finished value. -/
def Value.asText (use : Misuse) : Value → Except Misuse String
  | .text s => .ok s
  | .lines _ => .error use

/-- The value as it is shown in messages. -/
def Value.show : Value → String
  | .text s => s
  | .lines ls => Text.quotedList ls

/-- A finished value: lines are joined and blanks at the end dropped. -/
def Value.finish : Value → Value
  | .text s => .text s
  | .lines ls => .text (Text.stripRight ("\n".intercalate ls))

/-- Options in the order in which they were first set. -/
abbrev Entries := List (String × Value)

/-- Sets an option. -/
def Entries.put (es : Entries) (option : String) (v : Value) : Entries :=
  Assoc.put option v es

/-- The first entries, overridden by the second ones. -/
def Entries.override (es fs : Entries) : Entries :=
  fs.foldl (fun es e => es.put e.1 e.2) es

/-- Default options and sections. -/
structure Document where
  defaults : Entries := []
  sections : List (String × Entries) := []
  deriving DecidableEq, Repr

/-- The name of the section that holds the default options. -/
def defaultName : String := "DEFAULT"

namespace Document

/-- The options set in a section itself, or those of the default section. -/
def own? (d : Document) (name : String) : Option Entries :=
  match d.sections.lookup name with
  | some es => some es
  | none => if name = defaultName then some d.defaults else none

/-- A section other than the default one. -/
def hasSection (d : Document) (name : String) : Bool :=
  d.sections.any (·.1 = name)

/-- All options that count in a section: the defaults, overridden by its own. -/
def items (d : Document) (name : String) : Entries :=
  d.defaults.override ((d.sections.lookup name).getD [])

/-- The value of an option in a section. -/
def find? (d : Document) (name option : String) : Option Value :=
  let key := Text.lower option
  match d.own? name with
  | none => none
  | some es => (es.lookup key).or (d.defaults.lookup key)

/-- An option counts in a section; without a section the default options are meant. -/
def hasOption (d : Document) (name option : String) : Bool :=
  let key := Text.lower option
  let isSet (es : Entries) : Bool := es.any (·.1 = key)
  if name = "" || name = defaultName then isSet d.defaults
  else match d.sections.lookup name with
    | none => false
    | some es => isSet es || isSet d.defaults

/-- Changes the options of a section, which is made if it is not there. -/
def update (d : Document) (name : String) (f : Entries → Entries) : Document :=
  if d.hasSection name then
    { d with sections := d.sections.map fun s => if s.1 = name then (name, f s.2) else s }
  else if name = defaultName then { d with defaults := f d.defaults }
  else { d with sections := d.sections ++ [(name, f [])] }

/-- Finishes every value. -/
def finish (d : Document) : Document :=
  let entries (es : Entries) : Entries := es.map fun e => (e.1, e.2.finish)
  { defaults := entries d.defaults, sections := d.sections.map fun s => (s.1, entries s.2) }

end Document

end DagAccess.Ini
