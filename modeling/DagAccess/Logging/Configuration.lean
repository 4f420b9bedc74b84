import DagAccess.Assoc
import DagAccess.Ini
import DagAccess.Logging.Tree

/-!
# Configuring loggers

A document configures logging by sections whose names start with `formatter_`, `handler_` and
`logger_`. Formatters are made first, then handlers, which may name a formatter, then loggers are
changed, which may name handlers. A fault ends the work where it is met; `safely` undoes what was
done to the loggers that existed before.
-/

namespace DagAccess.Logging

/-- Why a configuration cannot be applied. -/
inductive Fault
  | unknownLevel (name : String)
  | invalidFormat (format : String)
  | unsupportedArgs (args : String)
  | unsupportedClass (shown : String)
  | misuse (m : Ini.Misuse)
  deriving DecidableEq, Repr

/-- What is wrong, in words. -/
def Fault.message : Fault → String
  | .unknownLevel name => "Unknown level: " ++ Text.quoted name
  | .invalidFormat format => "Invalid format '" ++ format ++ "' for '%' style"
  | .unsupportedArgs args => "Unsupported handler args: " ++ args
  | .unsupportedClass shown => "Unsupported handler class: " ++ shown
  | .misuse m => m.message

/-- The text of a value, which has to be finished. -/
def textOf (use : Ini.Misuse) (v : Ini.Value) : Except Fault String :=
  (v.asText use).mapError .misuse

/-! ## Options -/

/-- The names of handlers in an option, between commas. -/
def handlerNames (option : Option String) : List String :=
  ((Text.split ',' (option.getD "")).map Text.stripBlanks).filter (· ≠ "")

/-- The stream that the arguments of a handler name: `()`, `(sys.stdout,)` or `(sys.stderr,)`. -/
def streamOf (args : String) : Except Fault Stream :=
  let bare := Text.stripBlanks (Text.strip (fun c => c = '(' || c = ')') (Text.stripBlanks args))
  let name := Text.stripBlanks (String.ofList (Text.trimRight (· = ',') bare.toList))
  if name = "" || name = "sys.stdout" then .ok .out
  else if name = "sys.stderr" then .ok .err
  else .error (.unsupportedArgs args)

/-- The level that an option sets, none if it is missing. -/
def levelOf (option : Option Ini.Value) : Except Fault Level := do
  let text ← match option with
    | none => pure "NOTSET"
    | some v => textOf (.operation "upper") v
  let name := Text.upper text
  match Level.ofName? name with
  | some level => return level
  | none => throw (.unknownLevel name)

/-- The template of a formatter, and the pattern of its times. -/
structure Formatter where
  format : String
  timeFormat : Option String

/-- Makes the formatter of a section. -/
def formatterOf (options : Ini.Entries) : Except Fault Formatter := do
  let given ← match options.lookup "format" with
    | none => pure "%(message)s"
    | some v => textOf .search v
  let format := if given = "" then "%(message)s" else given
  if Template.isValid format.toList then
    return ⟨format, (options.lookup "datefmt").map (·.show)⟩
  else throw (.invalidFormat format)

/-- The classes of handlers. -/
def handlerClasses : List String := ["StreamHandler", "logging.StreamHandler"]

/-- A handler has one of the classes that can be made. -/
def checkClass (options : Ini.Entries) : Except Fault Unit :=
  match options.lookup "class" with
  | none => .ok ()
  | some (.text name) =>
    if handlerClasses.contains name then .ok () else .error (.unsupportedClass name)
  | some (.lines ls) => .error (.unsupportedClass (Text.quotedList ls))

/-- The arguments of a handler. -/
def argsOf (options : Ini.Entries) : Except Fault String :=
  match options.lookup "args" with
  | none => .ok "()"
  | some v => textOf (.operation "strip") v

/-- The name of the formatter of a handler, if it is given one. -/
def formatterNameOf (options : Ini.Entries) : Except Fault (Option String) :=
  match options.lookup "formatter" with
  | none => .ok none
  | some v => (textOf .key v).map some

/-- Makes the handler of a section, which tags its records with the present DAG. -/
def handlerOf (formatters : List (String × Formatter)) (options : Ini.Entries) :
    Except Fault Handler := do
  checkClass options
  let stream ← streamOf (← argsOf options)
  let level ← levelOf (options.lookup "level")
  let formatter := (← formatterNameOf options).bind fun name => formatters.lookup name
  return { stream, level, format := formatter.map (·.format),
           timeFormat := formatter.bind (·.timeFormat), tagFilters := 1 }

/-! ## Sections -/

/-- The kind and the name in the name of a section, before and after the first underscore. -/
def splitSection (name : String) : String × String :=
  let (kind, rest) := Text.cut '_' name.toList
  (String.ofList kind, String.ofList (rest.getD []))

/-- The sections of a kind with their names and all options that count in them. -/
def sectionsOf (d : Ini.Document) (kind : String) : List (String × Ini.Entries) :=
  d.sections.filterMap fun s =>
    let (k, name) := splitSection s.1
    if k = kind then some (name, d.items s.1) else none

/-- Entries under names; of equal names the last entry counts. -/
def collect {α : Type} (entries : List (String × α)) : List (String × α) :=
  entries.foldl (fun es e => Assoc.put e.1 e.2 es) []

/-- Changing the state of logging; what is done before a fault stays done. -/
abbrev Configure := ExceptT Fault (StateM State)

/-- Makes the handlers of a document. -/
def makeHandlers (formatters : List (String × Formatter)) :
    List (String × Ini.Entries) → Configure (List (String × HandlerId))
  | [] => return []
  | (name, options) :: rest => do
    let h ← (handlerOf formatters options : Except Fault Handler)
    let id := (← get).handlers.size
    modify fun s => { s with handlers := s.handlers.push h }
    return (name, id) :: (← makeHandlers formatters rest)

/-- Changes a logger as its section says. -/
def changeLogger (handlers : List (String × HandlerId)) (name : String) (options : Ini.Entries) :
    Configure Unit := do
  modify (·.mention name)
  let level ← (levelOf (options.lookup "level") : Except Fault Level)
  modify (·.update name fun l => { l with level })
  if name ≠ rootName then
    let propagate := match options.lookup "propagate" with
      | none => true
      | some v => v = .text "1"
    modify (·.update name fun l => { l with propagate })
  let names ← match options.lookup "handlers" with
    | none => pure none
    | some v => do pure (some (← (textOf (.operation "split") v : Except Fault String)))
  let ids := (handlerNames names).filterMap fun n => handlers.lookup n
  modify (·.update name fun l => { l with handlers := ids })

/-- Applies the sections of a document. -/
def configure (d : Ini.Document) : Configure Unit := do
  let formatters ← ((sectionsOf d "formatter").mapM fun (name, options) => do
    return (name, ← formatterOf options) : Except Fault (List (String × Formatter)))
  let handlers ← makeHandlers (collect formatters) (sectionsOf d "handler")
  (collect (sectionsOf d "logger")).forM fun (name, options) =>
    changeLogger (collect handlers) name options

/-! ## Undoing -/

/-- Gives the loggers that existed in `old` their former settings. -/
def State.restore (old s : State) : State :=
  { s with
    root := old.root
    loggers := s.loggers.map fun e => (e.1, (old.loggers.lookup e.1).getD e.2) }

/-- Undoes the changes to loggers if the work ends with a fault. -/
def safely {ε : Type} (work : ExceptT ε (StateM State) Unit) : ExceptT ε (StateM State) Unit := do
  let old ← get
  try work catch fault =>
    modify old.restore
    throw fault

/-- Makes every handler of a logger tag its records. -/
def annotate (s : State) (name : String) : State :=
  let handlers := (s.get name).handlers.foldl
    (fun hs id => hs.modify id fun h => if h.tagFilters = 0 then { h with tagFilters := 1 } else h)
    s.handlers
  { s with handlers }

end DagAccess.Logging
