import DagAccess.Manager.Stored

/-!
# The world of a process

Everything that lasts from one operation to the next: what the machine offers, the settings that
were loaded, the loggers, the providers of groups, the allow-lists and the managers that refer to
them, and which of these is the manager of the process. An operation is an `Act`; it ends with an
answer or with a fault, and what it did before a fault stays done.
-/

namespace DagAccess

/-- What the machine offers. -/
structure Host where
  files : Files := {}
  environment : List (String × String) := []
  accounts : Accounts := {}
  /-- The account that the process runs under, if it has a name. -/
  login : Option String := none
  commands : Command.Outcomes := []

/-- The settings that were loaded, by component, and where others are looked for. -/
structure SettingsStore where
  paths : Settings.SearchPaths
  loaded : List (String × Ini.Document) := []

/-- The number of a manager. -/
abbrev ManagerId := Nat

/-- Everything that lasts. -/
structure World where
  host : Host
  /-- The clock of the caches, in seconds. -/
  clock : Int := 0
  settings : SettingsStore
  logging : Logging.State := .initial
  providers : Array Groups.Provider := #[]
  lists : AllowList.Store := ∅
  managers : Array Manager.Stored := #[]
  /-- The scopes that parsers were asked for, but the usual one. -/
  readings : Array (List Acl.Scope) := #[]
  /-- The manager of the process. -/
  current : Option ManagerId := none

/-- A world with this machine, in which nothing happened yet. -/
def World.start (host : Host) (clock : Int) : World :=
  { host, clock, settings := { paths := .ofEnvironment host.environment } }

/-- What the manager with a number is by now. -/
def World.manager? (w : World) (id : ManagerId) : Option Manager :=
  w.managers[id]?.map (·.manager w.lists)

/-- An operation in a world. -/
abbrev Act := ExceptT Fault (StateM World)

namespace Act

/-- Takes over the outcome of a computation. -/
def of {α : Type} (outcome : Except Fault α) : Act α :=
  match outcome with
  | .ok a => return a
  | .error fault => throw fault

/-- The outcome of an operation. -/
def attempt {α : Type} (act : Act α) : Act (Except Fault α) := fun w =>
  match act w with
  | (outcome, w) => (.ok outcome, w)

/-- Changes the loggers. -/
def modifyLogging (f : Logging.State → Logging.State) : Act Unit :=
  modify fun w => { w with logging := f w.logging }

/-- Logs a message. -/
def log (level : Logging.Level) (logger message : String) : Act Unit :=
  modifyLogging (·.log ⟨level, logger, message⟩)

/-- Writes a line to the output. -/
def printLine (text : String) : Act Unit :=
  modifyLogging (·.print .out (text ++ "\n"))

/-- Works on loggers only. -/
def onLogging (work : ExceptT Fault (StateM Logging.State) Unit) : Act Unit := fun w =>
  match work w.logging with
  | (outcome, logging) => (outcome, { w with logging })

/-- Works on allow-lists only. -/
def onLists {α : Type} (work : AllowList.Store → α × AllowList.Store) : Act α := fun w =>
  match work w.lists with
  | (a, lists) => (.ok a, { w with lists })

/-- Works with the tag of a DAG on all records. -/
def tagged {α : Type} (tag : String) (act : Act α) : Act α := do
  modifyLogging fun s => { s with tags := tag :: s.tags }
  let outcome ← attempt act
  modifyLogging fun s => { s with tags := s.tags.drop 1 }
  of outcome

/-- Starts the process anew: no settings are loaded, the loggers are in their usual state, and there
is no manager of the process. -/
def restart : Act Unit :=
  modify fun w => { w with
    settings := { paths := .ofEnvironment w.host.environment }
    logging := w.logging.restart
    current := none }

end Act

end DagAccess
