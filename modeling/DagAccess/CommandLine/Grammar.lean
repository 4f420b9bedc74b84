import DagAccess.Text.Blank
import DagAccess.Text.Classes
import DagAccess.Text.Quoted

/-!
# Command-line options

A grammar lists the options of a command: their short and long spellings, and whether they take a
value. A long option may be cut short as long as it stays unique, a value may be joined to its
option, and short options may be joined to each other. Anything that is no option and no value is
left over, which is reported only when all options have been read.

Reading goes from left to right and ends early where help is asked for.
-/

namespace DagAccess.CommandLine

/-- The second text starts with the first one. -/
def starts (start s : String) : Bool :=
  start.toList.isPrefixOf s.toList

/-- What an option is for. -/
inductive Kind
  | help
  /-- It stands for itself. -/
  | flag
  /-- It takes a value, which may have to be one of some choices. -/
  | value (placeholder : String) (choices : List String)
  deriving DecidableEq, Repr

/-- An option. -/
structure Switch where
  /-- The spellings, short ones first. -/
  spellings : List String
  kind : Kind
  required : Bool := false
  help : String
  deriving DecidableEq, Repr

/-- The name of an option in messages. -/
def Switch.label (o : Switch) : String :=
  "/".intercalate o.spellings

/-- The name of an option for the program: the first long spelling. -/
def Switch.name (o : Switch) : String :=
  ((o.spellings.find? (starts "--")).map fun s => String.ofList (s.toList.drop 2)).getD ""

/-- The options of a command. -/
abbrev Grammar := List Switch

/-- Why words are no command line. -/
inductive Fault
  | ambiguous (word : String) (candidates : List String)
  | noValue (label : String)
  | ignoredValue (label value : String)
  | badChoice (label value : String) (choices : List String)
  | missing (labels : List String)
  | leftOver (words : List String)
  deriving DecidableEq, Repr

/-- What is wrong, in words. -/
def Fault.message : Fault → String
  | .ambiguous word candidates =>
    "ambiguous option: " ++ word ++ " could match " ++ ", ".intercalate candidates
  | .noValue label => "argument " ++ label ++ ": expected one argument"
  | .ignoredValue label value =>
    "argument " ++ label ++ ": ignored explicit argument " ++ Text.quoted value
  | .badChoice label value choices =>
    "argument " ++ label ++ ": invalid choice: " ++ Text.quoted value ++ " (choose from "
      ++ ", ".intercalate (choices.map Text.quoted) ++ ")"
  | .missing labels => "the following arguments are required: " ++ ", ".intercalate labels
  | .leftOver words => "unrecognized arguments: " ++ " ".intercalate words

/-- What a word is. -/
inductive Word
  /-- No option: a value, or left over. -/
  | plain
  /-- The mark that ends the options. -/
  | mark
  /-- An option in one of its spellings, with the value joined to it. -/
  | option (o : Switch) (spelling : String) (joined : Option String)
  /-- It looks like an option and is none. -/
  | unknown

namespace Grammar

/-- All spellings with their options, in order. -/
def spellings (g : Grammar) : List (String × Switch) :=
  g.flatMap fun o => o.spellings.map (·, o)

/-- The text before and after the first equals sign. -/
def splitValue (word : String) : String × Option String :=
  let (before, after) := Text.cut '=' word.toList
  (String.ofList before, after.map String.ofList)

/-- The form of a negative number. -/
def isNegativeNumber (word : String) : Bool :=
  let isDigit (c : Char) : Bool := (Text.digitValue? c).isSome
  match word.toList with
  | '-' :: cs =>
    match cs.span isDigit with
    | (ds, []) => !ds.isEmpty
    | (_, '.' :: rest) => !rest.isEmpty && rest.all isDigit
    | _ => false
  | _ => false

/-- The spellings that a word may be short for, with their options and joined values. -/
def candidates (g : Grammar) (word : String) : List (String × Switch × Option String) :=
  match word.toList with
  | '-' :: '-' :: _ =>
    let (start, value) := splitValue word
    (g.spellings.filter fun e => starts start e.1).map fun (s, o) => (s, o, value)
  | '-' :: c :: rest =>
    g.spellings.filterMap fun (s, o) =>
      if s = String.ofList ['-', c] then some (s, o, some (String.ofList rest))
      else if starts word s then some (s, o, none)
      else none
  | _ => []

/-- Tells what a word is, among words before the mark. -/
def classify (g : Grammar) (word : String) : Except Fault Word :=
  if !starts "-" word then .ok .plain
  else match g.spellings.lookup word with
    | some o => .ok (.option o word none)
    | none =>
      if word = "-" then .ok .plain
      else
        let (before, value) := splitValue word
        match value, g.spellings.lookup before with
        | some v, some o => .ok (.option o before (some v))
        | _, _ =>
          match g.candidates word with
          | [(s, o, v)] => .ok (.option o s v)
          | [] =>
            if isNegativeNumber word || word.toList.contains ' ' then .ok .plain else .ok .unknown
          | many => .error (.ambiguous word (many.map fun c => c.1))

/-- The mark that ends the options. -/
def endMark : String := "--"

/-- Tells what the words are. Behind the mark no word is an option. -/
def classifyAll (g : Grammar) : List String → Except Fault (List (String × Word))
  | [] => .ok []
  | word :: rest =>
    if word = endMark then .ok ((word, .mark) :: rest.map (·, .plain))
    else do
      let w ← g.classify word
      return (word, w) :: (← g.classifyAll rest)

/-- An option that was read, with its value if it has one. -/
structure Setting where
  option : Switch
  value : Option String

/-- What was read: settings in order, and words left over. -/
structure Reading where
  settings : List Setting := []
  leftOver : List String := []

/-- How reading ends. -/
inductive Outcome
  | help
  | read (r : Reading)

/-- Checks a value. Where the mark is joined to an option it is dropped, and the option is left
without a value. -/
def checkValue (o : Switch) (value : String) : Except Fault Setting :=
  if value = endMark then .ok ⟨o, none⟩
  else match o.kind with
    | .value _ choices =>
      if choices.isEmpty || choices.contains value then .ok ⟨o, some value⟩
      else .error (.badChoice o.label value choices)
    | _ => .ok ⟨o, some value⟩

/-- Reads the options joined in one word: those without a value, then the last one, which may take
the rest of the word as its value; says whether it waits for the next word instead. -/
def unjoin (g : Grammar) :
    (fuel : Nat) → (o : Switch) → (spelling : String) → (joined : Option String) →
    Except Fault (List Switch × Switch × Option String)
  | 0, o, _, joined => .ok ([], o, joined)
  | fuel + 1, o, spelling, joined =>
    match joined, o.kind with
    | none, _ => .ok ([], o, none)
    | some v, .value _ _ => .ok ([], o, some v)
    | some v, _ =>
      match spelling.toList, v.toList with
      | '-' :: '-' :: _, _ => .error (.ignoredValue o.label v)
      | _, [] => .error (.ignoredValue o.label v)
      | _, c :: rest =>
        let next := String.ofList ['-', c]
        match g.spellings.lookup next with
        | none => .error (.ignoredValue o.label v)
        | some p => do
          let joined := if rest.isEmpty then none else some (String.ofList rest)
          let (before, last, value) ← unjoin g fuel p next joined
          return (o :: before, last, value)

/-- Applies options without a value; help ends the reading. -/
def applyFlags (r : Reading) : List Switch → Option Reading
  | [] => some r
  | o :: rest =>
    if o.kind = .help then none
    else applyFlags { r with settings := r.settings ++ [⟨o, none⟩] } rest

/-- Reads words. -/
def readWords (g : Grammar) (r : Reading) : List (String × Word) → Except Fault Outcome
  | [] => .ok (.read r)
  | (word, .plain) :: rest => readWords g { r with leftOver := r.leftOver ++ [word] } rest
  | (word, .mark) :: rest => readWords g { r with leftOver := r.leftOver ++ [word] } rest
  | (word, .unknown) :: rest => readWords g { r with leftOver := r.leftOver ++ [word] } rest
  | (word, .option o spelling joined) :: rest => do
    let (flags, last, value) ← unjoin g word.length o spelling joined
    match last.kind, value with
    | .value _ _, some v =>
      match applyFlags r flags with
      | none => return .help
      | some r =>
        let s ← checkValue last v
        readWords g { r with settings := r.settings ++ [s] } rest
    | .value _ _, none =>
      match rest with
      | (next, .plain) :: rest =>
        match applyFlags r flags with
        | none => return .help
        | some r =>
          let s ← checkValue last next
          readWords g { r with settings := r.settings ++ [s] } rest
      | _ => throw (.noValue last.label)
    | _, _ =>
      match applyFlags r (flags ++ [last]) with
      | none => return .help
      | some r => readWords g r rest

/-- Reads a command line. Required options have to be there, and no word may be left over. -/
def read (g : Grammar) (words : List String) : Except Fault Outcome := do
  match ← g.readWords {} (← g.classifyAll words) with
  | .help => return .help
  | .read r =>
    let missing := g.filter fun o => o.required && !r.settings.any (·.option = o)
    if !missing.isEmpty then throw (.missing (missing.map (·.label)))
    if !r.leftOver.isEmpty then throw (.leftOver r.leftOver)
    return .read r

/-- The option was read. -/
def Reading.has (r : Reading) (name : String) : Bool :=
  r.settings.any (·.option.name = name)

/-- The value that was set last for an option. -/
def Reading.value? (r : Reading) (name : String) : Option String :=
  (r.settings.reverse.find? (·.option.name = name)).bind (·.value)

end Grammar

end DagAccess.CommandLine
