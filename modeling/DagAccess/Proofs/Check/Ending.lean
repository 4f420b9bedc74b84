import DagAccess.Proofs.Check.Manager

/-!
# How the command ends

In a new process the command prints a decision and ends with the status of it, or it ends without a
decision: with the status 2 if its arguments or the configuration of access are not in order, with 0
if help was asked for, or with a fault that it does not foresee (`main_ends`). A decision is the one
of the manager for the request in the world `begun`, in which the process was started.
-/

namespace DagAccess

open Settings (Fresh)
open Stateful (Confined)

/-! ## The start -/

/-- Only loggers and the settings of other components may have changed. -/
def World.beside (component : String) : Frame World where
  rel v w := w = { v with logging := w.logging, settings := w.settings } ∧
    w.settings.paths = v.settings.paths ∧
    w.settings.loaded.lookup component = v.settings.loaded.lookup component
  refl _ := ⟨rfl, rfl, rfl⟩
  trans := by
    rintro u v w ⟨first, paths, loaded⟩ ⟨second, paths', loaded'⟩
    refine ⟨?_, paths'.trans paths, loaded'.trans loaded⟩
    rw [second, first]

namespace Check

variable {arguments : List String} {q : Request} {v w : World}

/-- The world after the start of the command. -/
def started (w : World) : World :=
  (Logging.start "acl_check" (Act.restart w).2).2

/-- The world with the messages that are wanted. -/
def leveled (q : Request) (w : World) : World :=
  if q.debug then { w with logging := w.logging.update "dagacl" fun l =>
    { l with level := .debug } } else w

/-- The world with the tag of the DAG, if there is one. -/
def inside (q : Request) (w : World) : World :=
  if q.dagUser = "" then w
    else { w with logging := { w.logging with tags := q.dagUser :: w.logging.tags } }

/-- The world in which a request comes to be decided on. -/
def begun (q : Request) (w : World) : World := inside q (leveled q (started w))

/-- There is a file with options of a DAG, but the DAG has no owner. -/
def Stray (q : Request) : Prop := q.dagConf ≠ "" ∧ q.dagUser = ""

/-- What is printed for a decision: the decision itself, and what the manager grants for the AM if
that is wanted. -/
def verdict (q : Request) (d : Decision) : String :=
  let word := if d.allowed then "GRANTED" else "DENIED"
  let line (r : Right) : String := Manager.rightName r ++ "=" ++ d.manager.render r ++ "\n"
  s!"{word}: user={d.user}, action={d.action.label}" ++ "\n" ++
    if q.render then line .view ++ line .modify else ""

def Reads (arguments : List String) (q : Request) : Prop :=
  ∃ r, grammar.read arguments = .ok (.read r) ∧ Request.ofReading r = q

/-- What is wrong with the arguments. -/
inductive Wrong (arguments : List String) : String → Prop
  | unread {fault} (failed : grammar.read arguments = .error fault) : Wrong arguments fault.message
  | stray {q : Request} (reads : Reads arguments q) (stray : Stray q) :
      Wrong arguments "a DAG user (--dag-user) is required with --dag-conf"

/-- How the command ends in a new process: its outcome, and the loggers with what was written in the
end. -/
inductive Ending (arguments : List String) (w : World) : Except Fault Nat → Logging.State → Prop
  /-- The manager that was built for the request decides, and that is printed. -/
  | decided {q : Request} {m ready action allowed s} (reads : Reads arguments q)
      (proper : ¬ Stray q)
      (made : manager q (begun q w) = (.ok m, ready)) (built : Built q w.host m)
      (wanted : q.action = some action) (answered : (check m q.user action ready).1 = .ok allowed)
      (talks : w.logging.restart.Talks s) :
      Ending arguments w (.ok (if allowed then 0 else 1))
        (s.print .out (verdict q ⟨m, q.user.getD lostName, action, allowed⟩))
  | helped {s} (asked : grammar.read arguments = .ok .help) (talks : w.logging.restart.Talks s) :
      Ending arguments w (.ok 0) (s.print .out help)
  | refused {message s} (wrong : Wrong arguments message) (talks : w.logging.restart.Talks s) :
      Ending arguments w (.ok 2) (s.print .err ("error: " ++ message ++ "\n" ++ help))
  | misconfigured {q : Request} {cause s} (reads : Reads arguments q) (proper : ¬ Stray q)
      (failed : (manager q (begun q w)).1 = .error (.acl cause))
      (talks : w.logging.restart.Talks s) :
      Ending arguments w (.ok 2) s
  /-- There is no manager, and the command does not foresee why. -/
  | escaped {q : Request} {fault s} (reads : Reads arguments q) (proper : ¬ Stray q)
      (failed : (manager q (begun q w)).1 = .error fault)
      (why : Escapes q w.host fault) (talks : w.logging.restart.Talks s) :
      Ending arguments w (.error fault) s
  /-- There is a manager, but no user or no action to decide on. -/
  | lost {q : Request} {m ready s} (reads : Reads arguments q) (proper : ¬ Stray q)
      (made : manager q (begun q w) = (.ok m, ready))
      (built : Built q w.host m) (lost : q.user = none ∨ q.action = none)
      (talks : w.logging.restart.Talks s) : Ending arguments w (.error .missingArgument) s
  /-- The name of the user holds a NUL, which no argument of a real process does, and a command was
  to be asked for the groups of the user. -/
  | unspeakable {q : Request} {m ready action user s} (reads : Reads arguments q)
      (proper : ¬ Stray q)
      (made : manager q (begun q w) = (.ok m, ready)) (built : Built q w.host m)
      (wanted : q.action = some action) (named : q.user = some user)
      (nul : Command.holdsNul user = true)
      (failed : (check m q.user action ready).1 = .error .unspeakable)
      (talks : w.logging.restart.Talks s) : Ending arguments w (.error .unspeakable) s

end Check

end DagAccess
