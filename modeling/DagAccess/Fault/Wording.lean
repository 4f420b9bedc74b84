import DagAccess.Fault

/-!
# Usual wordings of errors

Errors come in four kinds, one of which covers the others. An error that is reported without a
message has the usual wording of its kind, which may speak of a detail that has to be given with it.
So a backend that reports a failed lookup without a message causes another fault than it means
(`Fault.reported`).
-/

namespace DagAccess

/-- Kinds of errors. -/
inductive ErrorKind
  | any
  | configuration
  | groupLookup
  | command
  deriving DecidableEq, Repr

namespace ErrorKind

/-- The details given with an error. -/
abbrev Details := List (String × Datum)

/-- The usual wording, or the name of the detail that it lacks. -/
def usualWording (k : ErrorKind) (details : Details) : Except String String :=
  match k with
  | .any => .ok "An unknown exception occurred."
  | .configuration => .ok "Invalid ACL configuration."
  | .command => .ok "Command failed."
  | .groupLookup =>
    match (details.lookup "user").bind Datum.plain? with
    | some user => .ok s!"Failed to resolve groups for user {user}."
    | none => .error "user"

/-- The message of an error; an empty one counts as none. -/
def message (k : ErrorKind) (given : Option String) (details : Details) : Except String String :=
  match given with
  | none => k.usualWording details
  | some text => if text = "" then k.usualWording details else .ok text

/-- Errors of this kind are errors of the other one. -/
def isA (k other : ErrorKind) : Bool :=
  other = .any || k = other

end ErrorKind

/-- What comes of it if a backend reports a failed lookup, perhaps with a message, but with no
details. -/
def Fault.reported (given : Option String) : Fault :=
  match ErrorKind.groupLookup.message given [] with
  | .ok message => .lookup (.reported message)
  | .error _ => .lookupUnnamed

end DagAccess
