import DagAccess.Logging.Level
import DagAccess.Logging.Template
import DagAccess.Text.Blank

/-!
# Loggers and handlers

Loggers form a tree by the dots in their names, under one root. A logger has a level, handlers, and
a flag that says whether its records go on to the handlers of its parent. A handler writes records
from some level on to one of two streams. While the work of a DAG is done, its name is the tag of
all records.
-/

namespace DagAccess.Logging

/-- Where handlers write to. -/
inductive Stream
  | out
  | err
  deriving DecidableEq, Repr

/-- The number of a handler. -/
abbrev HandlerId := Nat

/-- Writes records to a stream. -/
structure Handler where
  stream : Stream
  level : Level := .unset
  /-- The template of lines, the bare message if there is none. -/
  format : Option String := none
  timeFormat : Option String := none
  /-- How often records are given the tag of the present DAG. -/
  tagFilters : Nat := 0
  deriving DecidableEq, Repr

/-- The source of records with a name. -/
structure Logger where
  level : Level := .unset
  handlers : List HandlerId := []
  propagate : Bool := true
  deriving DecidableEq, Repr

/-- A record that passed the level of its logger. -/
structure Record where
  level : Level
  logger : String
  message : String
  tag : String
  deriving DecidableEq, Repr

/-- The name of the root. -/
def rootName : String := "root"

/-- Loggers, handlers, and what was logged. -/
structure State where
  handlers : Array Handler
  root : Logger
  loggers : List (String × Logger) := []
  /-- The tags of the DAGs that are worked on, innermost first. -/
  tags : List String := []
  records : List Record := []
  out : String := ""
  err : String := ""

namespace State

/-- The name stands for the root. -/
def isRoot (name : String) : Bool :=
  name = "" || name = rootName

/-- The logger with a name, if it was ever mentioned. -/
def find? (s : State) (name : String) : Option Logger :=
  if isRoot name then some s.root else s.loggers.lookup name

/-- The logger with a name; one that was never mentioned has no settings. -/
def get (s : State) (name : String) : Logger :=
  (s.find? name).getD {}

/-- Mentions a logger, which exists from now on. -/
def mention (s : State) (name : String) : State :=
  if (s.find? name).isSome then s else { s with loggers := s.loggers ++ [(name, {})] }

/-- Changes a logger. -/
def update (s : State) (name : String) (f : Logger → Logger) : State :=
  if isRoot name then { s with root := f s.root }
  else
    let s := s.mention name
    { s with loggers := s.loggers.map fun e => if e.1 = name then (name, f e.2) else e }

/-- The tag of the present DAG, empty outside of one. -/
def tag (s : State) : String :=
  s.tags.head?.getD ""

/-! ## The tree -/

/-- What stands before the dots of a name, longest first, read from the end of the name. Nothing may
be empty, and a dot right before another one does not count. -/
def ancestorsFrom : (fuel : Nat) → List Char → List String
  | 0, _ => []
  | fuel + 1, reversed =>
    match reversed.dropWhile (· ≠ '.') with
    | [] => []
    | _ :: [] => []
    | _ :: c :: before => String.ofList (c :: before).reverse :: ancestorsFrom fuel before

/-- The names that a parent may have, nearest first. -/
def ancestors (name : String) : List String :=
  ancestorsFrom name.length name.toList.reverse

/-- The first logger was mentioned before the second one. -/
def isOlder (s : State) (first second : String) : Bool :=
  ((s.loggers.map Prod.fst).dropWhile (· ≠ first)).contains second

/-- The parent of a logger: the nearest one that exists, else the root. A logger that the name of
the root begins with does not come between the root and loggers that are older. -/
def parent (s : State) (name : String) : String :=
  match (ancestors name).find? fun a => (s.loggers.lookup a).isSome with
  | none => rootName
  | some a => if a.toList.isPrefixOf rootName.toList && s.isOlder name a then rootName else a

/-- The logger and those above it up to the root, nearest first. -/
def chain (s : State) : (fuel : Nat) → String → List String
  | 0, _ => [rootName]
  | fuel + 1, name => if isRoot name then [rootName] else name :: chain s fuel (s.parent name)

/-- The logger and those above it. -/
def lineage (s : State) (name : String) : List String :=
  s.chain name.length name

/-- The level that counts: the nearest one that is set. -/
def effective (s : State) (name : String) : Level :=
  (((s.lineage name).map fun n => (s.get n).level).find? (· ≠ .unset)).getD .unset

/-- The handlers of a logger and of those above it, as far as records go on. -/
def reached (s : State) : List String → List HandlerId
  | [] => []
  | name :: above =>
    let l := s.get name
    l.handlers ++ (if l.propagate then s.reached above else [])

/-! ## Writing -/

/-- Adds a text to a stream. -/
def print (s : State) (stream : Stream) (text : String) : State :=
  match stream with
  | .out => { s with out := s.out ++ text }
  | .err => { s with err := s.err ++ text }

/-- The moment of all records. -/
def moment : Calendar.Moment := ⟨⟨1970, 1, 1⟩, 0, 0, 0, 0, some 0⟩

/-- The time of a record, with milliseconds unless a pattern is given. -/
def timeText (pattern : Option String) : String :=
  let write (p : String) : String := String.ofList (moment.write p.toList)
  match pattern with
  | none => write "%Y-%m-%d %H:%M:%S" ++ ",000"
  | some p => if p = "" then write "%Y-%m-%d %H:%M:%S" ++ ",000" else write p

/-- The parts of a record that templates can show. -/
def parts (r : Record) (h : Handler) : List (String × Part) :=
  let tagParts :=
    if h.tagFilters = 0 then []
    else [("dagid", Part.text r.tag),
      ("dagidf", .text (if r.tag = "" then "" else "(dag=" ++ r.tag ++ ")"))]
  [("name", .text r.logger), ("msg", .text r.message), ("message", .text r.message),
   ("levelname", .text r.level.name), ("levelno", .count r.level.rank),
   ("asctime", .text (timeText h.timeFormat)), ("msecs", .zero), ("created", .zero),
   ("threadName", .text "MainThread"), ("processName", .text "MainProcess"),
   ("exc_info", .absent), ("exc_text", .absent), ("stack_info", .absent)] ++ tagParts

/-- The line that a handler writes for a record, nothing if its template does not fit. -/
def line? (h : Handler) (r : Record) : Option String :=
  match h.format with
  | none => some r.message
  | some format => Template.fill (parts r h) format

/-- Lets a handler write a record. -/
def handle (r : Record) (s : State) (id : HandlerId) : State :=
  match s.handlers[id]? with
  | none => s
  | some h =>
    if r.level.rank < h.level.rank then s
    else match line? h r with
      | none => s
      | some line => s.print h.stream (line ++ "\n")

/-- Logs a message. Without a level nothing is logged. Where no handler is reached, a warning or
worse goes to the error stream. -/
def log (s : State) (n : Notice) : State :=
  let name := if isRoot n.logger then rootName else n.logger
  let s := s.mention name
  if n.level = .unset || n.level.rank < (s.effective name).rank then s
  else
    let r : Record := ⟨n.level, name, n.message, s.tag⟩
    let s := { s with records := s.records ++ [r] }
    match s.reached (s.lineage name) with
    | [] =>
      if n.level.rank < Level.warning.rank then s else s.print .err (n.message ++ "\n")
    | ids => ids.foldl (handle r) s

/-! ## The usual state -/

/-- The template of lines that is used without a configuration. -/
def usualFormat : String := "%(asctime)s.%(msecs)03d - %(name)s - %(levelname)s - %(message)s"

/-- The pattern of times that is used without a configuration. -/
def usualTimeFormat : String := "%Y-%m-%d %H:%M:%S"

/-- One handler at the root writes to the output from the level INFO on. -/
def initial : State :=
  { handlers := #[{ stream := .out, level := .info, format := usualFormat,
                    timeFormat := usualTimeFormat }]
    root := { level := .info, handlers := [0] }
    loggers := [("dagacl", { level := .info }), ("dagacl.config", {}),
      ("dagacl.authorization.groups", {}), ("dagacl.authorization.manager", {})] }

/-- The usual state in a new process, in which nothing was logged; the tags in force stay. -/
def restart (s : State) : State :=
  { initial with tags := s.tags, records := s.records, out := s.out, err := s.err }

end State

end DagAccess.Logging
