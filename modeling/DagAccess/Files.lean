import DagAccess.Text.Blank
import DagAccess.Text.Quoted

/-!
# Files

A tree of directories and files. Paths are read component by component, from the root or from the
working directory if there is one; the directory of an entry is itself an entry. Some paths cannot
be opened although something is there.

Every text is a path here, and one that leads to no entry is missing. A real system also refuses
texts that are no paths at all, those with a NUL and those that are too long. There are no links,
and nothing changes while it is read.
-/

namespace DagAccess

/-- A failure that the system reports about something with a name. -/
structure SystemError where
  code : Int
  reason : String
  subject : String
  deriving DecidableEq, Repr

/-- The failure in words. -/
def SystemError.message (e : SystemError) : String :=
  "[Errno " ++ toString e.code ++ "] " ++ e.reason ++ ": " ++ Text.quoted e.subject

namespace Files

/-- What a path leads to. -/
inductive Entry
  | file (bytes : List UInt8)
  | directory
  deriving DecidableEq, Repr

/-- Nothing is there. -/
def missing (path : String) : SystemError := ⟨2, "No such file or directory", path⟩

/-- It must not be opened. -/
def denied (path : String) : SystemError := ⟨13, "Permission denied", path⟩

/-- A directory was expected. -/
def notDirectory (path : String) : SystemError := ⟨20, "Not a directory", path⟩

/-- A file was expected. -/
def isDirectory (path : String) : SystemError := ⟨21, "Is a directory", path⟩

/-- Follows the parts of a path from a place on. -/
def follow (start : List String) (path : List Char) : List String :=
  ((Text.pieces '/' path).map String.ofList).foldl
    (fun parts part =>
      if part = "" || part = "." then parts
      else if part = ".." then parts.dropLast
      else parts ++ [part])
    start

/-- The path ends with a slash, so it can only lead to a directory. -/
def endsOpen (path : String) : Bool :=
  path.toList.getLast? = some '/'

/-- A path below another one. -/
def join (path name : String) : String :=
  if endsOpen path then path ++ name else path ++ "/" ++ name

end Files

/-- Entries by the components of their paths, and the paths that cannot be opened. -/
structure Files where
  entries : List (List String × Files.Entry) := []
  locked : List String := []
  /-- The place from which relative paths are followed. -/
  workingDirectory : Option (List String) := none

namespace Files

/-- The components of a path from the root on. -/
def components (f : Files) (path : String) : Option (List String) :=
  match path.toList with
  | [] => none
  | '/' :: rest => some (follow [] rest)
  | cs => f.workingDirectory.map (follow · cs)

/-- The entry at the components of a path. -/
def at? (f : Files) (parts : List String) : Option Entry :=
  if parts.isEmpty then some .directory else f.entries.lookup parts

/-- What a path leads to. -/
def find? (f : Files) (path : String) : Option Entry :=
  match (f.components path).bind f.at? with
  | some (.file bytes) => if endsOpen path then none else some (.file bytes)
  | found => found

/-- Something is there. -/
def isThere (f : Files) (path : String) : Bool :=
  (f.find? path).isSome

/-- A file is there. -/
def isFile (f : Files) (path : String) : Bool :=
  match f.find? path with
  | some (.file _) => true
  | _ => false

/-- The path may be opened, if something is there. -/
def isReadable (f : Files) (path : String) : Bool :=
  !f.locked.contains path

/-- The bytes of a file. -/
def read (f : Files) (path : String) : Except SystemError (List UInt8) :=
  if !f.isReadable path then .error (denied path)
  else match f.find? path with
    | some (.file bytes) => .ok bytes
    | some .directory => .error (isDirectory path)
    | none =>
      let onFile (parts : List String) : Bool := match f.at? parts with
        | some (.file _) => true
        | _ => false
      match f.components path with
      | none => .error (missing path)
      | some parts =>
        if (List.range (parts.length + 1)).any fun n => onFile (parts.take n) then
          .error (notDirectory path)
        else .error (missing path)

/-- The names in a directory. -/
def list (f : Files) (path : String) : Except SystemError (List String) :=
  match f.components path, f.find? path with
  | some parts, some .directory =>
    if !f.isReadable path then .error (denied path)
    else .ok (f.entries.filterMap fun (p, _) =>
      if p.length = parts.length + 1 && p.take parts.length = parts then p.getLast? else none)
  | _, some _ => .error (notDirectory path)
  | _, none => .error (missing path)

/-- Puts an entry at the components of a path. -/
def putAt (f : Files) (parts : List String) (e : Entry) : Files :=
  { f with entries := (parts, e) :: f.entries.filter (·.1 ≠ parts) }

/-- Puts an entry at a path, with the directories above it. -/
def put (f : Files) (path : String) (e : Entry) : Files :=
  match f.components path with
  | none => f
  | some parts =>
    let withParents := (List.range parts.length).foldl
      (fun f n => if (f.at? (parts.take n)).isSome then f else f.putAt (parts.take n) .directory) f
    withParents.putAt parts e

/-- Writes a file. -/
def write (f : Files) (path : String) (bytes : List UInt8) : Except SystemError Files :=
  match f.find? path with
  | some .directory => .error (isDirectory path)
  | _ => .ok (f.put path (.file bytes))

/-- Removes a file. -/
def remove (f : Files) (path : String) : Except SystemError Files :=
  match f.components path, f.find? path with
  | some parts, some (.file _) => .ok { f with entries := f.entries.filter (·.1 ≠ parts) }
  | _, some _ => .error (isDirectory path)
  | _, none => .error (missing path)

end Files

end DagAccess
