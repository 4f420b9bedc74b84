import DagAccess.CommandLine.Help
import DagAccess.Manager.Check

/-!
# The command that checks access

The command says whether a user may do something, as the settings of the machine and the options of
a DAG decide. It ends with the status 0 if access is granted, 1 if it is denied, and 2 if the
arguments or the configuration of access are not in order. While it works for a DAG, the owner of
the DAG is the tag of all log records.
-/

namespace DagAccess.Check

open CommandLine

/-- The name of the command. -/
def program : String := "dagacl_check"

/-- What the command does. -/
def description : String := "Check whether a user may view or modify the AM or a DAG"

/-- The actions by their names, in the order of the names. -/
def actions : List (String × AclType) :=
  [("am_modify", .amModify), ("am_view", .amView), ("dag_modify", .dagModify),
    ("dag_view", .dagView)]

/-- The options of the command. -/
def grammar : Grammar :=
  [{ spellings := ["-h", "--help"], kind := .help, help := "show this help message and exit" },
   { spellings := ["-u", "--user"], kind := .value "USER" [], required := true,
     help := "user to check" },
   { spellings := ["-a", "--action"], kind := .value "ACTION" (actions.map Prod.fst),
     required := true, help := "action to check" },
   { spellings := ["--am-user"], kind := .value "AM_USER" [],
     help := "user owning the AM (default: current user)" },
   { spellings := ["--dag-user"], kind := .value "DAG_USER" [], help := "user owning the DAG" },
   { spellings := ["--dag-conf"], kind := .value "DAG_CONF" [],
     help := "YAML file with the ACLs submitted with the DAG" },
   { spellings := ["--render"], kind := .flag, help := "print the application ACLs" },
   { spellings := ["--debug"], kind := .flag, help := "raise log level to DEBUG" }]

/-- The help on the command. -/
def help : String := helpText program description grammar

/-- What the command is asked. User and action have to be there, but may have lost their values. For
the other arguments an empty text counts as none. -/
structure Request where
  user : Option String
  action : Option AclType
  amUser : String
  dagUser : String
  dagConf : String
  render : Bool
  debug : Bool
  deriving DecidableEq, Repr

/-- The request in the options that were read. -/
def Request.ofReading (r : Grammar.Reading) : Request :=
  let text (name : String) : String := (r.value? name).getD ""
  { user := r.value? "user"
    action := (r.value? "action").bind fun name => actions.lookup name
    amUser := text "am-user"
    dagUser := text "dag-user"
    dagConf := text "dag-conf"
    render := r.has "render"
    debug := r.has "debug" }

/-- The logger of the command. -/
def logger : String := Logging.loggerName "acl_check"

/-- Writes an error and the help to the error stream. The status is 2. -/
def refuse (message : String) : Act Nat := do
  Act.modifyLogging (·.print .err ("error: " ++ message ++ "\n" ++ help))
  return 2

/-- The manager that decides: that of the process, or one derived from it for a DAG. -/
def manager (q : Request) : Act Manager := do
  let am ← Manager.ofProcess q.amUser "acl"
  if q.dagUser = "" then return ← Manager.view am
  let conf ← if q.dagConf = "" then pure none else some <$> Settings.dagOptions q.dagConf
  Manager.view (← Manager.derive am q.dagUser conf)

/-- What is shown of a user whose name was lost. -/
def lostName : String := "[]"

/-- Decides on an action of a user whose name was lost: an owner is somebody else, and such a user
can neither be looked for among names nor have groups looked up. -/
def checkLost (m : Manager) (t : AclType) : Act Bool := do
  let users := m.grants.users.principals t
  if !m.enabled || wildcard ∈ users then return true
  if users.isEmpty && (m.grants.groups.principals t).isEmpty then Manager.deny lostName t
  else throw .missingArgument

/-- Decides on an action, where a right over the AM implies the one over the DAG. -/
def check (m : Manager) (user : Option String) (t : AclType) : Act Bool :=
  match user, t with
  | some user, t => m.checkAction user t
  | none, .amView => checkLost m .amView
  | none, .amModify => checkLost m .amModify
  | none, .dagView => do if ← checkLost m .amView then return true else checkLost m .dagView
  | none, .dagModify => do if ← checkLost m .amModify then return true else checkLost m .dagModify

/-- A decision of the command. -/
structure Decision where
  manager : Manager
  /-- The user, as it is shown. -/
  user : String
  action : AclType
  allowed : Bool

/-- The decision, or the status after a fault in the configuration. -/
def decide (q : Request) : Act (Nat ⊕ Decision) := do
  match ← Act.attempt (manager q) with
  | .error (.acl cause) =>
    Act.log .error logger s!"Invalid ACL configuration: {cause.message}"
    return .inl 2
  | .error fault => throw fault
  | .ok manager =>
    match q.action with
    | some action =>
      let allowed ← check manager q.user action
      return .inr { manager, user := q.user.getD lostName, action, allowed }
    | none => throw .missingArgument

/-- Prints a decision, and what the manager grants for the AM if that is wanted. -/
def announce (q : Request) (d : Decision) : Act Nat := do
  let word := if d.allowed then "GRANTED" else "DENIED"
  Act.printLine s!"{word}: user={d.user}, action={d.action.label}"
  if q.render then
    [Right.view, .modify].forM fun r =>
      Act.printLine (Manager.rightName r ++ "=" ++ d.manager.render r)
  return if d.allowed then 0 else 1

/-- Tells what a request came to. -/
def tell (q : Request) : Nat ⊕ Decision → Act Nat
  | .inl status => return status
  | .inr d => announce q d

/-- Answers a request. -/
def answer (q : Request) : Act Nat := do
  if q.dagConf ≠ "" && q.dagUser = "" then
    return ← refuse "a DAG user (--dag-user) is required with --dag-conf"
  if q.debug then Act.modifyLogging (·.update "dagacl" fun l => { l with level := .debug })
  tell q (← if q.dagUser = "" then decide q else Act.tagged q.dagUser (decide q))

/-- Runs the command with arguments; the result is its exit status. -/
def run (arguments : List String) : Act Nat := do
  match grammar.read arguments with
  | .error fault => refuse fault.message
  | .ok .help => do
    Act.modifyLogging (·.print .out help)
    return 0
  | .ok (.read r) => answer (.ofReading r)

/-- Runs the command in a new process. -/
def main (arguments : List String) : Act Nat := do
  Act.restart
  discard <| Logging.start "acl_check"
  run arguments

end DagAccess.Check
