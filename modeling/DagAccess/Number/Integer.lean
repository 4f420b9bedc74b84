import DagAccess.Text.Blank
import DagAccess.Text.Classes

/-!
# Written integers

An integer is written as an optional sign and digits of any script, with blanks around it and single
underscores between digits. In base 2, 8 and 16 the digits may follow `0b`, `0o` and `0x`. Decimal
numbers of more than 4300 digits are refused, in reading and in writing.
-/

namespace DagAccess.Number

/-- Why a text is not read as an integer, or an integer not written. -/
inductive Refusal
  | malformed
  /-- The text starts with more decimal digits than are read. -/
  | tooLong (digits : Nat)
  deriving DecidableEq, Repr

/-- The most decimal digits of a number that is read or written. -/
def digitLimit : Nat := 4300

/-- The blanks of ASCII. -/
def isPlainBlank (c : Char) : Bool :=
  c = ' ' || (0x9 ≤ c.toNat && c.toNat ≤ 0xD)

/-- Writes digits and blanks of other scripts in ASCII. Nothing is read beyond a character of
another kind, which `?` stands for. -/
def plainForm : List Char → List Char
  | [] => []
  | c :: cs =>
    if c.toNat < 0x7F then c :: plainForm cs
    else if Text.isBlank c then ' ' :: plainForm cs
    else match Text.digitValue? c with
      | some d => Nat.digitChar d :: plainForm cs
      | none => ['?']

/-- The value of a digit in bases up to 36. -/
def digitIn? (base : Nat) (c : Char) : Option Nat :=
  let v :=
    if '0' ≤ c && c ≤ '9' then c.toNat - 0x30
    else if 'a' ≤ c && c ≤ 'z' then c.toNat - 0x61 + 10
    else if 'A' ≤ c && c ≤ 'Z' then c.toNat - 0x41 + 10
    else 36
  if v < base then some v else none

/-- What a run of digits amounts to. -/
structure Run where
  value : Nat
  digits : Nat
  rest : List Char

/-- Reads digits with single underscores between them; `gap` says that an underscore was read
last. -/
def readRun (base value digits : Nat) (gap : Bool) : List Char → Option Run
  | [] => if gap then none else some ⟨value, digits, []⟩
  | c :: cs =>
    if c = '_' then
      if gap then none else readRun base value digits true cs
    else match digitIn? base c with
      | some d => readRun base (value * base + d) (digits + 1) false cs
      | none => if gap then none else some ⟨value, digits, c :: cs⟩

/-- The letter that announces a base. -/
def baseLetter? : Nat → Option Char
  | 2 => some 'b'
  | 8 => some 'o'
  | 16 => some 'x'
  | _ => none

/-- Drops `0x` and its like, and one underscore after it. -/
def dropBase (base : Nat) : List Char → List Char
  | '0' :: c :: cs =>
    if baseLetter? base = some c.toLower then
      match cs with
      | '_' :: cs => cs
      | cs => cs
    else '0' :: c :: cs
  | cs => cs

/-- The sign and what follows it. -/
def readSign : List Char → Int × List Char
  | '-' :: cs => (-1, cs)
  | '+' :: cs => (1, cs)
  | cs => (1, cs)

/-- Reads a whole text as an integer. -/
def readInt (base : Nat) (cs : List Char) : Except Refusal Int :=
  let (sign, cs) := readSign ((plainForm cs).dropWhile isPlainBlank)
  let cs := dropBase base cs
  if cs.head? = some '_' then .error .malformed
  else match readRun base 0 0 false cs with
    | none => .error .malformed
    | some run =>
      if base = 10 ∧ digitLimit < run.digits then .error (.tooLong run.digits)
      else if run.digits = 0 ∨ (run.rest.any fun c => !isPlainBlank c) then .error .malformed
      else .ok (sign * run.value)

/-- Writes an integer in decimal digits. -/
def writeInt (n : Int) : Option String :=
  let s := toString n
  if digitLimit < (toString n.natAbs).length then none else some s

end DagAccess.Number
