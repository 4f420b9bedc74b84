import DagAccess.Files
import DagAccess.Ini.Reader
import DagAccess.Logging.Level

/-!
# Loading settings

The settings of a component come from one file that the environment names, or else from the first of
its base files that can be opened, overridden by the files of its snippet directories in the order
of their paths. Files that cannot be opened are passed over.

`load` does this for one component. What it has read when a fault ends it is part of its result,
because it is kept as the settings of the component.
-/

namespace DagAccess.Settings

open Logging (Notice)

/-- Several paths. -/
inductive PathList
  | paths (ps : List String)
  /-- A text in place of a list counts as the list of its characters. -/
  | characters (s : String)
  /-- Something else. -/
  | unusable
  deriving DecidableEq, Repr

/-- Where settings are looked for, by component. -/
structure SearchPaths where
  /-- Base files, in order of precedence. An empty table is invalid. -/
  files : List (String × PathList)
  /-- Directories of snippets. -/
  snippets : Option (List (String × PathList))
  /-- Files named by the environment, the empty text for none. An empty table is invalid. -/
  chosen : List (String × Option String)
  deriving DecidableEq, Repr

/-- Why settings are not loaded. -/
inductive LoadFault
  | noComponent
  | invalidChosen
  | unknownComponent (component : String)
  | invalidFiles
  | noFiles (component : String)
  | ini (cause : Ini.Fault)
  | system (cause : SystemError)
  /-- A path or a list of paths is something else. -/
  | unusablePaths
  /-- The table of snippet directories is something else. -/
  | unusableSnippets
  deriving DecidableEq, Repr

/-- What is wrong, in words. -/
def LoadFault.message : LoadFault → String
  | .noComponent => "No component provided to get_config"
  | .invalidChosen => "Invalid CONFIG_ENV"
  | .unknownComponent component => "Invalid component '" ++ component ++ "'"
  | .invalidFiles => "Invalid CONFIG_FILES"
  | .noFiles component => "Invalid component " ++ component
  | .ini cause => cause.message
  | .system cause => cause.message
  | .unusablePaths => "paths expected"
  | .unusableSnippets => "a table of paths expected"

/-! ## Search paths -/

/-- The variables that name the files of components. -/
def fileVariables : List (String × String) :=
  [("acl", "DAGACL_ACL_CONFIG"), ("logging", "DAGACL_LOGGING_CONFIG")]

/-- The search paths of a new process with an environment. -/
def SearchPaths.ofEnvironment (environment : List (String × String)) : SearchPaths :=
  let base (component : String) : String × PathList :=
    (component, .paths ["/etc/dagacl/" ++ component ++ ".conf",
      "/usr/etc/dagacl/" ++ component ++ ".conf"])
  let snippet (component : String) : String × PathList :=
    (component,
      .paths ["/usr/etc/dagacl/" ++ component ++ ".conf.d",
        "/etc/dagacl/" ++ component ++ ".conf.d"])
  { files := [base "acl", base "logging"]
    snippets := some [snippet "acl", snippet "logging"]
    chosen := fileVariables.map fun (component, name) =>
      (component, some ((environment.lookup name).getD "")) }

/-- The paths of a list. -/
def PathList.toList : PathList → Except LoadFault (List String)
  | .paths ps => .ok ps
  | .characters s => .ok (s.toList.map String.singleton)
  | .unusable => .error .unusablePaths

/-- A list of paths in messages. -/
def PathList.show : PathList → String
  | .paths ps => Text.quotedList ps
  | .characters s => s
  | .unusable => ""

/-! ## Loading -/

/-- What was read, and what there is to say about it. -/
structure Loading where
  document : Ini.Document := {}
  notices : List Notice := []

/-- Loading ends at the first fault and keeps what was read before. -/
abbrev Load := ExceptT LoadFault (StateM Loading)

namespace Load

/-- The name of the logger for settings. -/
def logger : String := "dagacl.config"

/-- Says something. -/
def notify (level : Logging.Level) (message : String) : Load Unit :=
  modify fun l => { l with notices := l.notices ++ [⟨level, logger, message⟩] }

/-- Reads files onto what was read; gives the paths of those that could be opened. -/
def readFiles (files : Files) : List String → Load (List String)
  | [] => return []
  | path :: rest => do
    match files.read path with
    | .error _ => readFiles files rest
    | .ok bytes =>
      let (document, fault) := (← get).document.read (.ofBytes path bytes)
      modify fun l => { l with document }
      match fault with
      | some cause => throw (.ini cause)
      | none => return path :: (← readFiles files rest)

/-- Says which of the paths are there but were not read. -/
def reportUnread (files : Files) (component : String) (paths read : List String) : Load Unit :=
  paths.forM fun path => do
    if !files.isThere path then return
    if !files.isReadable path then
      notify .error s!"Config file {path} for component {component} exists but is not readable"
    else if !read.contains path then
      notify .error (s!"Config file {path} for component {component} exists but failed to parse. "
        ++ s!"Check it for duplicate options in the [{component}] section or invalid INI syntax")

/-- Reads files and says which of them were not read. -/
def readReported (files : Files) (component : String) (paths : List String) :
    Load (List String) := do
  let read ← readFiles files paths
  reportUnread files component paths read
  return read

/-- Reads the files of a snippet directory in the order of their paths. -/
def readSnippets (files : Files) (component directory : String) : Load Unit := do
  match files.list directory with
  | .error cause => throw (.system cause)
  | .ok names =>
    let paths := ((names.map (Files.join directory)).filter files.isFile).mergeSort (· ≤ ·)
    let read ← readReported files component paths
    if !read.isEmpty then notify .info s!"Applied configuration snippets from {directory}"

/-- Reads the first base file that can be opened, and its snippets. -/
def readBase (files : Files) (component : String) (snippets : Option (List (String × PathList))) :
    List String → Load Unit
  | [] => return
  | path :: rest => do
    let read ← readReported files component [path]
    if read.isEmpty then readBase files component snippets rest
    else
      notify .info s!"Reading configuration from {Text.quotedList read}"
      match snippets with
      | none => throw .unusableSnippets
      | some table =>
        let directories ← ((table.lookup component).getD (.paths [])).toList
        directories.forM fun d => do if files.isThere d then readSnippets files component d

/-- Reads the file that the environment names; says whether it is there. -/
def readChosen (files : Files) (component path : String) : Load Bool := do
  if path = "" then return false
  if files.isFile path then
    let read ← readFiles files [path]
    notify .info s!"Reading configuration from {Text.quotedList read}"
    return true
  notify .info
    (s!"Configuration file {path} for {component} set through environment variable not found, "
    ++ "falling back to installed configuration")
  return false

/-- Loads the settings of a component. -/
def component (files : Files) (paths : SearchPaths) (name : String) : Load Unit := do
  if paths.chosen.isEmpty then throw .invalidChosen
  match paths.chosen.lookup name with
  | none => throw (.unknownComponent name)
  | some none => throw .unusablePaths
  | some (some path) =>
    if ← readChosen files name path then return
    if paths.files.isEmpty then throw .invalidFiles
    match paths.files.lookup name with
    | none => throw (.noFiles name)
    | some list =>
      let base ← list.toList
      if base.any files.isThere then readBase files name paths.snippets base
      else notify .debug s!"Config file not found in {list.show}, using defaults for {name}"

end Load

/-- The outcome of loading a component. -/
def load (files : Files) (paths : SearchPaths) (component : String) :
    Except LoadFault Unit × Loading :=
  (Load.component files paths component).run.run {}

/-! ## Overriding options -/

/-- The name of the variable that overrides an option. The section is left out where it is the main
one, which has the name of the component. -/
def variableName (component option : String) (section_ : Option String) : String :=
  let part := match section_ with
    | none => ""
    | some s => if s = "" || s = component then "" else "_" ++ Text.upper s
  "DAGACL_" ++ Text.upper component ++ part ++ "_" ++ Text.upper option

/-- Removes every occurrence of a text, from left to right. -/
def removeAll (needle : List Char) : (fuel : Nat) → List Char → List Char
  | 0, cs => cs
  | _, [] => []
  | fuel + 1, c :: cs =>
    if needle.isPrefixOf (c :: cs) then removeAll needle fuel ((c :: cs).drop needle.length)
    else c :: removeAll needle fuel cs

/-- Says that a variable overrides an option. Where no section is given none is mentioned. -/
def overrideMessage (component option : String) (section_ : Option String) : String :=
  let place := section_.getD "None"
  let message := s!"option \"{option}\" on section {place} for component {component}.conf"
    ++ s!" was overriden by environment variable {variableName component option section_}"
  String.ofList (removeAll "on section None ".toList message.length message.toList)

end DagAccess.Settings
