import DagAccess.Assoc
import DagAccess.World

/-!
# Looking up settings

The settings of a component are loaded when they are first asked for and stay as they are. A fault
ends the operation that asked first; later ones find what was read before the fault. A variable of
the environment overrides an option at any time.
-/

namespace DagAccess.Settings

/-- The settings of a component. -/
def document (component : String) : Act Ini.Document := do
  if component = "" then throw (.settings .noComponent)
  let w ← get
  match w.settings.loaded.lookup component with
  | some d => return d
  | none =>
    let (outcome, loading) := load w.host.files w.settings.paths component
    modify fun w => { w with settings := { w.settings with
      loaded := (component, loading.document) :: w.settings.loaded } }
    loading.notices.forM fun n => Act.modifyLogging (·.log n)
    Act.of (outcome.mapError .settings)
    return loading.document

/-- The text of the variable that overrides an option. -/
def override? (component option : String) (section_ : Option String) : Act (Option String) := do
  match (← get).host.environment.lookup (variableName component option section_) with
  | none => return none
  | some text =>
    Act.log .info Load.logger (overrideMessage component option section_)
    return some text

/-- The section that is meant: the main section of a component has its name. -/
def sectionOr (component : String) (section_ : Option String) : String :=
  match section_ with
  | none => component
  | some s => if s = "" then component else s

/-- The text of an option. -/
def get (component option : String) (section_ : Option String) (fallback : String) :
    Act String := do
  match ← override? component option section_ with
  | some text => return Text.unquote text
  | none =>
    match (← document component).find? (sectionOr component section_) option with
    | none => return Text.unquote fallback
    | some v => return Text.unquote (← Act.of ((v.asText (.operation "strip")).mapError .misuse))

/-- The integer that a text is read as. -/
def readInt (text : String) : Except Fault Int :=
  (Number.readInt 10 text.toList).mapError (.integer text)

/-- The integer of an option, or the fallback if it is not set. -/
def getInt {α : Type} (component option : String) (section_ : Option String) (fallback : α)
    (make : Int → α) : Act α := do
  match ← override? component option section_ with
  | some text => return make (← Act.of (readInt text))
  | none =>
    match (← document component).find? (sectionOr component section_) option with
    | none => return fallback
    | some v => do
      let text ← Act.of ((v.asText .number).mapError .misuse)
      return make (← Act.of (readInt text))

/-- An option is set. -/
def hasOption (component option : String) (section_ : Option String) : Act Bool := do
  match ← override? component option section_ with
  | some _ => return true
  | none => return (← document component).hasOption (sectionOr component section_) option

/-- All options that count in a section, none if it is missing. -/
def sectionOptions (component section_ : String) : Act Options := do
  let d ← document component
  if !d.hasSection section_ then return []
  (d.items section_).mapM fun (option, v) => do
    return (option, Text.unquote (← Act.of ((v.asText (.operation "strip")).mapError .misuse)))

/-- The options about access in the main section. -/
def aclOptionNames : List String :=
  ["acls_enabled", "view_acls", "modify_acls", "dag_view_acls", "dag_modify_acls"]

/-- The options about access that are set. -/
def aclOptions (component : String) : Act Options := do
  aclOptionNames.filterMapM fun option => do
    if ← hasOption component option none then return some (option, ← get component option none "")
    else return none

/-! ## Options submitted with a DAG -/

/-- The options that the entries of a document give; an entry without a value gives none. -/
def optionsOf (entries : List (Datum × Datum)) : Except Fault Options :=
  entries.foldlM
    (fun options (key, value) =>
      match value with
      | .null => return options
      | value =>
        match key.plain?, value.option? with
        | some option, some text => return Assoc.put option text options
        | _, _ => throw .tooLongToWrite)
    []

/-- Reads the options in the bytes of a file. -/
def readDagOptions (path : String) (bytes : List UInt8) : Except Fault Options :=
  match Utf8.decode? bytes with
  | none => .error .undecodable
  | some cs =>
    match Yaml.Document.read (Text.unifyNewlines cs) with
    | .error .malformed => .error (.acl (.unparsable path))
    | .error fault => .error (.yaml fault)
    | .ok d =>
      match d.entries? with
      | none => .error (.acl (.noMapping path))
      | some entries => optionsOf entries

/-- The options submitted with a DAG in a file. -/
def dagOptions (path : String) : Act Options := do
  match (← MonadState.get).host.files.read path with
  | .error cause => throw (.acl (.unreadable path cause))
  | .ok bytes => Act.of (readDagOptions path bytes)

end DagAccess.Settings

/-! ## Logging as set

Logging is configured by the settings of the component `logging`. If they cannot be loaded they are
left alone; if they cannot be applied, the loggers are as before and an error is logged.
-/

namespace DagAccess.Logging

/-- The name of a logger of the library. -/
def loggerName (name : String) : String := "dagacl." ++ name

/-- Configures logging by the settings, and makes the handlers of the root tag their records. The
name of the logger is given back. -/
def start (name : String) : Act String := do
  let logger := loggerName name
  Act.modifyLogging (·.mention logger)
  if let .ok d ← Act.attempt (Settings.document "logging") then
    if !d.sections.isEmpty then
      if let .error fault ← Act.attempt (Act.onLogging (safely ((configure d).adapt .logging))) then
        Act.log .error logger s!"Logging configuration error: {fault.message}"
  Act.modifyLogging (annotate · rootName)
  return logger

end DagAccess.Logging
