import DagAccess.Calendar.Pattern
import DagAccess.Number.Integer
import DagAccess.Text.Quoted

/-!
# Templates of log lines

A template is a text with fields such as `%(name)-8s`: the name of a part of the record, flags, a
width, a precision and a letter for the form. A template is valid if it has at least one field. A
valid template may still fail for a record, because the record has no such part or the form does not
fit it.
-/

namespace DagAccess.Logging

/-- A part of a record. -/
inductive Part
  | text (s : String)
  | count (n : Nat)
  /-- A real number that is zero. -/
  | zero
  | absent
  deriving DecidableEq, Repr

/-- How a field is written. -/
structure Form where
  flags : List Char
  width : Nat
  precision : Option Nat
  letter : Char
  deriving DecidableEq, Repr

/-- The parts of a template. -/
inductive Piece
  | text (cs : List Char)
  | field (name : List Char) (form : Form)
  deriving DecidableEq, Repr

namespace Template

/-- A character of a field name. -/
def isWordChar (c : Char) : Bool :=
  c.isAlphanum || c = '_' || (0x80 ≤ c.toNat && Text.isPrintable c)

/-- A flag of a form. -/
def isFlag (c : Char) : Bool :=
  "#0+ -".toList.contains c

/-- Drops a star or digits. -/
def dropCount : List Char → List Char
  | '*' :: cs => cs
  | cs => cs.dropWhile Char.isDigit

/-- A letter that ends a field. -/
def isFormLetter (c : Char) : Bool :=
  "diouxefgcrsa%".toList.contains c.toLower

/-- A field starts a text, right behind its percent sign. -/
def startsField : List Char → Bool
  | '(' :: cs =>
    match cs.span isWordChar with
    | ([], _) => false
    | (_, ')' :: cs) =>
      let cs := dropCount (cs.dropWhile isFlag)
      let letterFirst (cs : List Char) : Bool := cs.head?.any isFormLetter
      match cs with
      | '.' :: more =>
        match more with
        | '*' :: rest => letterFirst rest
        | more => (more.head?.any Char.isDigit) && letterFirst (more.dropWhile Char.isDigit)
      | cs => letterFirst cs
    | _ => false
  | _ => false

/-- A template is valid if it has a field. -/
def isValid : List Char → Bool
  | [] => false
  | c :: cs => (c = '%' && startsField cs) || isValid cs

/-- The value of digits, zero for none. -/
def count (ds : List Char) : Nat :=
  ds.foldl (fun n d => n * 10 + (d.toNat - 0x30)) 0

/-- Reads the form of a field. -/
def readForm (cs : List Char) : Option (Form × List Char) :=
  let (flags, cs) := cs.span isFlag
  let (width, cs) := cs.span Char.isDigit
  let (precision, cs) := match cs with
    | '.' :: cs =>
      let (ds, cs) := cs.span Char.isDigit
      (some (count ds), cs)
    | cs => (none, cs)
  match cs.dropWhile fun c => c = 'h' || c = 'l' || c = 'L' with
  | [] => none
  | letter :: rest => some (⟨flags, count width, precision, letter⟩, rest)

/-- Puts a character before the first piece. -/
def pushChar (c : Char) : List Piece → List Piece
  | .text cs :: ps => .text (c :: cs) :: ps
  | ps => .text [c] :: ps

/-- Cuts a template into pieces. A percent sign has to be followed by another one or by a field. -/
def parse : (fuel : Nat) → List Char → Option (List Piece)
  | 0, _ => none
  | _, [] => some []
  | fuel + 1, '%' :: cs =>
    match cs with
    | '(' :: cs =>
      match cs.span (· ≠ ')') with
      | (_, []) => none
      | (name, _ :: cs) => do
        let (form, rest) ← readForm cs
        let pieces ← parse fuel rest
        if form.letter = '%' then return pushChar '%' pieces
        return .field name form :: pieces
    | cs => do
      let (form, rest) ← readForm cs
      if form.letter ≠ '%' then none
      return pushChar '%' (← parse fuel rest)
  | fuel + 1, c :: cs => (parse fuel cs).map (pushChar c)

/-- Brings a text to a width. -/
def pad (form : Form) (numeric : Bool) (sign body : String) : String :=
  let missing := form.width - (sign.length + body.length)
  if form.flags.contains '-' then sign ++ body ++ "".pushn ' ' missing
  else if numeric && form.flags.contains '0' then sign ++ "".pushn '0' missing ++ body
  else "".pushn ' ' missing ++ sign ++ body

/-- The sign of a number that is not negative. -/
def signOf (form : Form) : String :=
  if form.flags.contains '+' then "+" else if form.flags.contains ' ' then " " else ""

/-- A natural number in a base. -/
def digitsIn (base n : Nat) : String :=
  String.ofList (Nat.toDigits base n)

/-- A natural number in the form of a field. -/
def writeCount (form : Form) (n : Nat) : Option String :=
  let digits (s : String) : String := "".pushn '0' (form.precision.getD 0 - s.length) ++ s
  let alternate (mark : String) : String := if form.flags.contains '#' then mark else ""
  match form.letter with
  | 'd' => some (pad form true (signOf form) (digits (toString n)))
  | 'i' => some (pad form true (signOf form) (digits (toString n)))
  | 'u' => some (pad form true (signOf form) (digits (toString n)))
  | 'x' => some (pad form true (signOf form ++ alternate "0x") (digits (digitsIn 16 n)))
  | 'X' => some (pad form true (signOf form ++ alternate "0X") (digits (capitals (digitsIn 16 n))))
  | 'o' => some (pad form true (signOf form ++ alternate "0o") (digits (digitsIn 8 n)))
  | 'c' => some (pad form false "" (String.singleton (Char.ofNat n)))
  | 'f' => some (pad form true (signOf form) (fixed n))
  | 'F' => some (pad form true (signOf form) (fixed n))
  | _ => none
where
  /-- The digits with capital letters. -/
  capitals (s : String) : String :=
    String.ofList (s.toList.map Char.toUpper)
  /-- The number with zeros behind a point. -/
  fixed (n : Nat) : String :=
    match form.precision.getD 6 with
    | 0 => toString n
    | places => toString n ++ "." ++ "".pushn '0' places

/-- A text in the form of a field. -/
def writeText (form : Form) (s : String) : String :=
  let cut := match form.precision with
    | some n => String.ofList (s.toList.take n)
    | none => s
  pad form false "" cut

/-- A part of a record in the form of a field. -/
def writePart (form : Form) (part : Part) : Option String :=
  let plain : String := match part with
    | .text s => s
    | .count n => toString n
    | .zero => "0.0"
    | .absent => "None"
  let shown : String := match part with
    | .text s => Text.quoted s
    | _ => plain
  match form.letter, part with
  | 's', _ => some (writeText form plain)
  | 'r', _ => some (writeText form shown)
  | 'a', _ => some (writeText form shown)
  | _, .count n => writeCount form n
  | _, .zero => if form.letter = 'c' then none else writeCount form 0
  | _, _ => none

/-- Fills in a template. -/
def fill (parts : List (String × Part)) (template : String) : Option String := do
  let cs := template.toList
  let pieces ← parse (cs.length + 1) cs
  let texts ← pieces.mapM fun
    | .text cs => some (String.ofList cs)
    | .field name form => do
      let part ← parts.lookup (String.ofList name)
      writePart form part
  return String.join texts

end Template

end DagAccess.Logging
