import DagAccess.Assoc

/-!
# Merged inputs

A merged input groups the inputs of a DAG vertex under one name. It is made from things that its
caller keeps and may change: a payload buffer, a table of inputs, and a list of work directories.
Such things stand in a store under numbers, and who knows the number of a thing finds what has
become of it. A merged input knows the number of the table, so the input that is marked ready is the
one that stands in the table at that moment. Of the payload and the directories it has copies, and
who asks for the directories is given a copy in turn.
-/

namespace DagAccess.MergedInput

/-- Bytes without a meaning of their own. -/
abbrev Payload := List UInt8

/-- The number of a thing in a store. -/
abbrev Ref := Nat

/-- Things that can be changed. The inputs may be of any kind. -/
structure Store (α : Type) where
  buffers : Array Payload := #[]
  tables : Array (List (String × α)) := #[]
  lists : Array (List String) := #[]

namespace Store

variable {α : Type}

/-- What stands in a list by now. -/
def dirs (s : Store α) (list : Ref) : List String :=
  (s.lists[list]?).getD []

/-- The input that stands under a name in a table by now. -/
def input? (s : Store α) (table : Ref) (name : String) : Option α :=
  (s.tables[table]?).bind (·.lookup name)

/-- Makes a new list. -/
def newList (s : Store α) (dirs : List String) : Ref × Store α :=
  (s.lists.size, { s with lists := s.lists.push dirs })

/-- Replaces what stands in a buffer. -/
def fill (s : Store α) (buffer : Ref) (bytes : Payload) : Store α :=
  { s with buffers := s.buffers.setIfInBounds buffer bytes }

/-- Changes a table. -/
def changeTable (s : Store α) (table : Ref) (f : List (String × α) → List (String × α)) : Store α :=
  { s with tables := s.tables.modify table f }

/-- Adds a directory to a list. -/
def append (s : Store α) (list : Ref) (dir : String) : Store α :=
  { s with lists := s.lists.modify list (· ++ [dir]) }

end Store

/-- What the caller hands over and keeps. -/
structure Handover where
  payload : Option Ref
  inputs : Ref
  workDirs : Option Ref
  deriving DecidableEq, Repr

/-- Puts what the caller hands over into a store. -/
def Handover.ofValues {α : Type} (payload : Option Payload) (inputs : List (String × α))
    (workDirs : Option (List String)) : Handover × Store α :=
  ({ payload := payload.map fun _ => 0, inputs := 0, workDirs := workDirs.map fun _ => 0 },
    { buffers := payload.toArray, tables := #[inputs], lists := workDirs.toArray })

/-- What a merged input holds: its name and its payload, which never change, the table of inputs,
and a list of directories. -/
structure Context where
  name : String
  payload : Option Payload
  inputs : Ref
  workDirs : Ref
  deriving DecidableEq, Repr

/-- A merged input of what is handed over. The payload and the directories are copied, the table is
not. -/
def Context.ofHandover {α : Type} (name : String) (h : Handover) (s : Store α) :
    Context × Store α :=
  let payload := h.payload.bind fun buffer => s.buffers[buffer]?
  let (workDirs, s) := s.newList ((h.workDirs.map s.dirs).getD [])
  ({ name, payload, inputs := h.inputs, workDirs }, s)

/-- Why there is no merged input. -/
inductive Fault
  | noName
  | noInputs
  | noTracker
  deriving DecidableEq, Repr

/-- What is wrong, in words. -/
def Fault.message : Fault → String
  | .noName => "group_input_name is None"
  | .noInputs => "input-group map is None"
  | .noTracker => "input_ready_tracker is None"

/-- All things, those that the caller handed over, the merged input, the lists of directories that
the caller was given, and the inputs marked ready so far. -/
structure State (α : Type) where
  store : Store α
  handover : Handover
  context : Context
  returned : List Ref := []
  ready : List (Option α) := []

/-- Makes a merged input; name, inputs and a tracker of ready inputs have to be given. -/
def make {α : Type} (payload : Option Payload) (name : Option String)
    (inputs : Option (List (String × α))) (tracked : Bool) (workDirs : Option (List String)) :
    Except Fault (State α) :=
  match name, inputs with
  | none, _ => .error .noName
  | some _, none => .error .noInputs
  | some name, some inputs =>
    if tracked then
      let (handover, store) := Handover.ofValues payload inputs workDirs
      let (context, store) := Context.ofHandover name handover store
      .ok { store, handover, context }
    else .error .noTracker

/-- What is done with a merged input, or by the caller with the things that it has. -/
inductive Step (α : Type)
  | payload
  | ready
  | workDirs
  | editPayload (bytes : Payload)
  | editInput (name : String) (value : α)
  | deleteInput (name : String)
  | editWorkDirs (dir : String)
  /-- Adds a directory to a list that was given out, counted from the first one. -/
  | editReturned (n : Nat) (dir : String)

/-- What a step answers. -/
inductive Answer
  | done
  | payload (bytes : Option Payload)
  | workDirs (dirs : List String)
  deriving DecidableEq, Repr

namespace State

variable {α : Type}

/-- Changes a thing that the caller has, if it is there. -/
def change (s : State α) (thing : Option Ref) (f : Store α → Ref → Store α) : State α :=
  match thing with
  | none => s
  | some r => { s with store := f s.store r }

/-- Gives out a copy of the directories. -/
def giveDirs (s : State α) : Answer × State α :=
  let (copy, store) := s.store.newList (s.store.dirs s.context.workDirs)
  (.workDirs (store.dirs copy), { s with store, returned := s.returned ++ [copy] })

/-- Marks the input ready that stands under the name by now. -/
def markReady (s : State α) : State α :=
  { s with ready := s.ready ++ [s.store.input? s.context.inputs s.context.name] }

end State

/-- One step. -/
def step {α : Type} (s : State α) : Step α → Answer × State α
  | .payload => (.payload s.context.payload, s)
  | .ready => (.done, s.markReady)
  | .workDirs => s.giveDirs
  | .editPayload bytes => (.done, s.change s.handover.payload fun store r => store.fill r bytes)
  | .editInput name value =>
    (.done, s.change (some s.handover.inputs) fun store r =>
      store.changeTable r (Assoc.put name value))
  | .deleteInput name =>
    (.done, s.change (some s.handover.inputs) fun store r => store.changeTable r (Assoc.erase name))
  | .editWorkDirs dir => (.done, s.change s.handover.workDirs fun store r => store.append r dir)
  | .editReturned n dir => (.done, s.change s.returned[n]? fun store r => store.append r dir)

/-- Steps in their order. Each answer comes with the inputs marked ready so far. -/
def run {α : Type} (s : State α) : List (Step α) → List (Answer × List (Option α))
  | [] => []
  | x :: rest =>
    let (answer, after) := step s x
    (answer, after.ready) :: run after rest

end DagAccess.MergedInput
