import DagAccess.Files

/-!
# Commands

A command is a list of words. Running it gives the lines of its two outputs and its exit code, or a
fault: it cannot be started, or it ends with another code than expected. A word that holds a NUL
cannot be given to the system, so a command with such a word is not even tried. That is a failure of
its own, as it is no fault of the command. An empty command, which is not even tried either, is none
that the program ever gives. Signals, the environment that a command is given, and what else may
keep a real command from being tried (too many or too long words) are left to its outcome.
-/

namespace DagAccess

namespace Command

/-- What becomes of a command that is tried. -/
inductive Outcome
  | finished (out err : List UInt8) (code : Int)
  /-- It cannot be started, for a reason with a number. -/
  | unstartable (code : Int) (reason : String)

/-- Outcomes by the last word of a command. -/
abbrev Outcomes := List (String × Outcome)

/-- The bytes of a text. -/
def bytes (s : String) : List UInt8 :=
  s.toUTF8.toList

/-- The outcome for a last word. For a word that nothing is known about, no account is found. -/
def Outcomes.find (os : Outcomes) (word : String) : Outcome :=
  (os.lookup word).getD (.finished [] (bytes ("id: '" ++ word ++ "': no such user\n")) 1)

/-- The lines of both outputs, with their terminators, and the exit code. -/
structure Result where
  out : List (List UInt8)
  err : List (List UInt8)
  code : Int
  deriving DecidableEq, Repr

/-- Why a command that is tried has no result. -/
inductive Fault
  | unstartable (words : List String) (cause : SystemError)
  | unexpected (words : List String) (code expected : Int) (err : List (List UInt8))
  deriving DecidableEq, Repr

/-- What is wrong, in words. -/
def Fault.message : Fault → String
  | .unstartable words cause =>
    "Command: " ++ Text.quotedList words ++ " could not be executed: " ++ cause.message
  | .unexpected words code expected err =>
    "Command: " ++ Text.quotedList words ++ " returned " ++ toString code ++ ", expected "
      ++ toString expected ++ ", stderr " ++ Text.bracketed (err.map Text.quotedBytes)

/-- Why a run has no result. -/
inductive Failure
  | fault (cause : Fault)
  /-- A word cannot be given to the system. -/
  | unspeakable
  deriving DecidableEq, Repr

/-- A NUL is where a text ends for the system, so no word that it is given can hold one. -/
def holdsNul (word : String) : Bool :=
  word.toList.contains '\x00'

/-- Runs a command. With `strict` any code but the expected one is a fault. -/
def run (os : Outcomes) (words : List String) (expected : Int) (strict : Bool) :
    Except Failure Result :=
  if words.any holdsNul then .error .unspeakable
  else match os.find (words.getLast?.getD "") with
  | .unstartable code reason =>
    .error (.fault (.unstartable words ⟨code, reason, words.head?.getD ""⟩))
  | .finished out err code =>
    let errLines := Text.Lines.ofBytes err
    if code ≠ expected && strict then .error (.fault (.unexpected words code expected errLines))
    else .ok ⟨Text.Lines.ofBytes out, errLines, code⟩

end Command

end DagAccess
