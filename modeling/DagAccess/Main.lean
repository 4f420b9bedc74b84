import DagAccess.Check

/-!
# The program

The program gathers what the command may ask the machine for (variables, configuration files, the
options of a DAG, accounts), runs the command on it, and writes what it has to say. It starts no
other programs, so groups are not looked up by commands.
-/

namespace DagAccess.Program

/-- The variables that the command looks at. -/
def variableNames : List String :=
  let options := ["group_mapping", "group_cache_secs"] ++ Settings.aclOptionNames
  Settings.fileVariables.map Prod.snd ++ Manager.userVariables
    ++ options.map fun option => Settings.variableName "acl" option none

/-- The variables that are set. -/
def gatherVariables : IO (List (String × String)) := do
  let found ← variableNames.filterMapM fun name => do
    match ← IO.getEnv name with
    | some value => return some (name, value)
    | none => return none
  return found

/-- Puts the file at a path, if there is one. A file that must not be read is there and locked. -/
def gatherFile (files : Files) (path : String) : IO Files := do
  try
    let bytes ← IO.FS.readBinFile path
    return files.put path (.file bytes.toList)
  catch
    | .permissionDenied .. =>
      return { files.put path (.file []) with locked := path :: files.locked }
    | _ => return files

/-- Puts a directory and the files in it, if there is one. -/
def gatherDirectory (files : Files) (path : String) : IO Files := do
  try
    let entries ← (← IO.FS.realPath path).readDir
    entries.foldlM (fun files e => gatherFile files (Files.join path e.fileName))
      (files.put path .directory)
  catch _ => return files

/-- The paths in a table of search paths. -/
def pathsIn (table : List (String × Settings.PathList)) : List String :=
  table.flatMap fun e => (e.2.toList.toOption).getD []

/-- The files that the command may read. -/
def gatherFiles (paths : Settings.SearchPaths) (arguments : List String) : IO Files := do
  let directory := (← IO.currentDir).toString
  let start : Files := { workingDirectory := some (Files.follow [] directory.toList) }
  let requested := match Check.grammar.read arguments with
    | .ok (.read r) => (r.value? "dag-conf").toList
    | _ => []
  let chosen := paths.chosen.filterMap Prod.snd
  let single := (pathsIn paths.files ++ chosen ++ requested).filter (· ≠ "")
  let files ← single.foldlM gatherFile start
  (pathsIn (paths.snippets.getD [])).foldlM gatherDirectory files

/-- The text of a file, empty if it cannot be read. -/
def textOf (path : String) : IO String := do
  try IO.FS.readFile path catch _ => return ""

/-- Gathers what the machine offers to the command. -/
def gather (arguments : List String) : IO Host := do
  let environment ← gatherVariables
  let files ← gatherFiles (.ofEnvironment environment) arguments
  let accounts := Accounts.ofText (← textOf "/etc/passwd") (← textOf "/etc/group")
  return { files, environment, accounts }

/-- Runs the command. A fault that the command does not answer for ends the program with the status
1. -/
def run (arguments : List String) : IO UInt32 := do
  let host ← gather arguments
  let (outcome, world) := (Check.main arguments).run (World.start host 0)
  IO.print world.logging.out
  IO.eprint world.logging.err
  match outcome with
  | .ok status => return status.toUInt32
  | .error fault =>
    IO.eprintln fault.message
    return 1

end DagAccess.Program

/-- Checks access as the arguments ask. -/
def main (arguments : List String) : IO UInt32 :=
  DagAccess.Program.run arguments
