import DagAccess.CommandLine.Grammar

/-!
# Help on command-line options

The help on a command shows how it is used, what it does, and what each option is for. Lines that
show the use are wrapped; explanations stand in a column of their own.
-/

namespace DagAccess.CommandLine

/-- The greatest width of a line. -/
def lineWidth : Nat := 78

/-- The column of explanations. -/
def helpColumn : Nat := 24

/-- How the value of an option is shown, if it takes one. -/
def Switch.placeholder? (o : Switch) : Option String :=
  match o.kind with
  | .value name [] => some name
  | .value _ choices => some ("\x7b" ++ ",".intercalate choices ++ "\x7d")
  | _ => none

/-- The words that show the use of an option; optional ones stand in brackets as one word. -/
def Switch.usage (o : Switch) : List String :=
  let first := o.spellings.headD ""
  match o.placeholder?, o.required with
  | none, true => [first]
  | some name, true => [first, name]
  | none, false => ["[" ++ first ++ "]"]
  | some name, false => ["[" ++ first ++ " " ++ name ++ "]"]

/-- Puts words into lines that are not too long; `line` is the present one. -/
def wrap (indent : Nat) (line : String) : List String → List String
  | [] => [line]
  | word :: rest =>
    if lineWidth < line.length + 1 + word.length then
      line :: wrap indent ("".pushn ' ' indent ++ word) rest
    else wrap indent (line ++ " " ++ word) rest

/-- The lines that show the use of a command. -/
def usageLines (program : String) (g : Grammar) : List String :=
  let start := "usage: " ++ program
  wrap (start.length + 1) start (g.flatMap Switch.usage)

/-- The lines about an option. -/
def Switch.lines (o : Switch) : List String :=
  let shown := o.spellings.map fun s => match o.placeholder? with
    | none => s
    | some name => s ++ " " ++ name
  let header := "  " ++ ", ".intercalate shown
  if header.length + 2 ≤ helpColumn then
    [header ++ "".pushn ' ' (helpColumn - header.length) ++ o.help]
  else [header, "".pushn ' ' helpColumn ++ o.help]

/-- The help on a command. -/
def helpText (program description : String) (g : Grammar) : String :=
  let lines := usageLines program g ++ ["", description, "", "options:"] ++ g.flatMap Switch.lines
  String.join (lines.map (· ++ "\n"))

end DagAccess.CommandLine
