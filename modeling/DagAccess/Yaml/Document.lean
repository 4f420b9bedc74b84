import DagAccess.Base64
import DagAccess.Datum
import DagAccess.Text.Case
import DagAccess.Yaml.Node

/-!
# Values of a YAML document

Every node stands for a value. Scalars are read as their tag says. Collections are cells that carry
the number of their node, so values may share cells and contain themselves; the cells are filled in
the order in which they are met, level by level, and the first fault met ends the reading. `unfold`
writes a value as a tree, in which a cell within itself is cut off.
-/

namespace DagAccess.Yaml

/-- Why a text has no value. -/
inductive Fault
  /-- It is no well-formed document, or a node does not fit its tag. -/
  | malformed
  | integer (base : Nat) (text : String) (why : Number.Refusal)
  /-- A number has no digit after its sign. -/
  | emptyNumber
  | real (text : String)
  /-- A factor of a number in base 60 is too large. -/
  | tooLarge
  | switch (word : String)
  | timestamp
  /-- A timestamp is written as a mapping. -/
  | timestampForm
  | calendar (why : Calendar.Refusal)
  /-- A mapping is its own default value. -/
  | endless
  deriving DecidableEq, Repr

/-- The value of a node. -/
inductive Value
  | leaf (d : Datum)
  | cell (id : NodeId)

/-- The content of a collection. -/
inductive Cell
  | list (items : List Value)
  | pairs (entries : List (Value × Value))
  | map (entries : List (Datum × Value))
  | set (items : List Datum)

/-- A document that is read: its root and its cells. -/
structure Document where
  root : Option Value
  cells : List (NodeId × Cell)

/-! ## Scalars -/

/-- A numeral without underscores, and its sign. -/
def splitSign (text : List Char) : Except Fault (Int × List Char) :=
  match text with
  | [] => .error .emptyNumber
  | '-' :: cs => .ok (-1, cs)
  | '+' :: cs => .ok (1, cs)
  | cs => .ok (1, cs)

/-- Reads an integer in a base. -/
def integerIn (base : Nat) (cs : List Char) : Except Fault Int :=
  (Number.readInt base cs).mapError (.integer base (String.ofList cs))

/-- The value of places in base 60. -/
def sixties (places : List Int) : Int :=
  places.foldl (fun n d => n * 60 + d) 0

/-- Reads an integer: in base 2, 8, 16 or 60 if its form says so, else in base 10. -/
def readInteger (text : String) : Except Fault Int := do
  let (sign, cs) ← splitSign (text.toList.filter (· ≠ '_'))
  match cs with
  | [] => throw .emptyNumber
  | ['0'] => return 0
  | '0' :: 'b' :: cs => return sign * (← integerIn 2 cs)
  | '0' :: 'x' :: cs => return sign * (← integerIn 16 cs)
  | '0' :: _ => return sign * (← integerIn 8 cs)
  | cs =>
    if cs.contains ':' then return sign * sixties (← (Text.pieces ':' cs).mapM (integerIn 10))
    else return sign * (← integerIn 10 cs)

/-- Reads one real number. -/
def realPart (cs : List Char) : Except Fault Float :=
  match Number.readReal cs with
  | some x => .ok x
  | none => .error (.real (String.ofList cs))

/-- The value of places in base 60, the last one first; `base` is the factor of the first one. -/
def sixtiesReal (base : Nat) (sum : Float) : List Float → Except Fault Float
  | [] => .ok sum
  | x :: xs =>
    let factor := Number.ofDecimal base 0
    if factor.isInf then .error .tooLarge else sixtiesReal (base * 60) (sum + x * factor) xs

/-- Reads a real number, possibly in base 60. -/
def readReal (text : String) : Except Fault Float := do
  let folded := Text.lower (String.ofList (text.toList.filter (· ≠ '_')))
  let (sign, cs) ← splitSign folded.toList
  let signed (x : Float) : Float := if sign < 0 then -1.0 * x else 1.0 * x
  if cs = ".inf".toList then return signed (1.0 / 0.0)
  if cs = ".nan".toList then return 0.0 / 0.0
  if cs.contains ':' then
    let parts ← (Text.pieces ':' cs).mapM realPart
    return signed (← sixtiesReal 1 0.0 parts.reverse)
  return signed (← realPart cs)

/-- The words of switches in small letters. -/
def switchWords : List (String × Bool) :=
  [("yes", true), ("no", false), ("true", true), ("false", false), ("on", true), ("off", false)]

/-- The value of a scalar with a tag. -/
def readScalar (tag : Tag) (text : String) : Except Fault Datum :=
  match tag with
  | .null => .ok .null
  | .bool =>
    let word := Text.lower text
    match switchWords.lookup word with
    | some b => .ok (.bool b)
    | none => .error (.switch word)
  | .int => (readInteger text).map .int
  | .real => (readReal text).map .real
  | .text => .ok (.text text)
  | .binary =>
    if text.toList.all (·.toNat < 0x80) then
      match Base64.decode? text.toList with
      | some bs => .ok (.bytes bs)
      | none => .error .malformed
    else .error .malformed
  | .timestamp =>
    let cs := text.toList
    match Timestamp.read? (if cs.getLast? = some '\n' then cs.dropLast else cs) with
    | none => .error .timestamp
    | some t =>
      match t.resolve with
      | .ok (.inl d) => .ok (.date d)
      | .ok (.inr m) => .ok (.moment m)
      | .error why => .error (.calendar why)
  | _ => .error .malformed

/-! ## Collections -/

/-- How far a document is read. -/
structure Reading where
  nodes : Graph
  /-- Cells that were met and are not filled yet, in order. -/
  queue : List NodeId := []
  met : List NodeId := []
  cells : List (NodeId × Cell) := []

/-- Reading values; a fault ends it. -/
abbrev Read := StateT Reading (Except Fault)

namespace Read

/-- A node. -/
def node (id : NodeId) : Read Node := do
  return (← get).nodes.getD id default

/-- The entries of a mapping. -/
def entries (id : NodeId) : Read (List (NodeId × NodeId)) := do
  match (← node id).content with
  | .mapping es => return es
  | _ => throw .malformed

/-- Replaces the entries of a mapping. -/
def setEntries (id : NodeId) (es : List (NodeId × NodeId)) : Read Unit :=
  modify fun r => { r with nodes := r.nodes.modify id fun n => { n with content := .mapping es } }

/-- Makes a node a text. -/
def setText (id : NodeId) : Read Unit :=
  modify fun r => { r with nodes := r.nodes.modify id fun n => { n with tag := .text } }

/-- The text of a scalar; a mapping has the text of its default value. -/
def scalarText : (fuel : Nat) → NodeId → Read String
  | 0, _ => throw .endless
  | fuel + 1, id => do
    match (← node id).content with
    | .scalar text => return text
    | .sequence _ => throw .malformed
    | .mapping es =>
      match ← es.findM? fun e => return (← node e.1).tag = .default with
      | some (_, value) => scalarText fuel value
      | none => throw .malformed

/-- The value of a node. Cells that are met for the first time are to be filled later. -/
def value (id : NodeId) : Read Value := do
  let n ← node id
  if [.sequence, .mapping, .set, .orderedMap, .pairs].contains n.tag then
    modify fun r =>
      if r.met.contains id then r else { r with met := id :: r.met, queue := r.queue ++ [id] }
    return .cell id
  if [.merge, .default, .unknown].contains n.tag then throw .malformed
  let text ← scalarText ((← get).nodes.size + 1) id
  match n.tag, n.content with
  | .timestamp, .mapping _ => throw .timestampForm
  | tag, _ => return .leaf (← readScalar tag text)

mutual

/-- Resolves the merge marks of a mapping: the entries merged in come before its own. -/
def flatten : (fuel : Nat) → NodeId → Read Unit
  | 0, _ => throw .endless
  | fuel + 1, id => flattenFrom fuel id 0 []

/-- Goes on at an entry with `merged` found so far. -/
def flattenFrom : (fuel : Nat) → NodeId → Nat → List (NodeId × NodeId) → Read Unit
  | 0, _, _, _ => throw .endless
  | fuel + 1, id, index, merged => do
    let es ← entries id
    match es[index]? with
    | none => if !merged.isEmpty then setEntries id (merged ++ es)
    | some (key, value) =>
      match (← node key).tag with
      | .merge =>
        setEntries id (es.eraseIdx index)
        match (← node value).content with
        | .mapping _ =>
          flatten fuel value
          flattenFrom fuel id index (merged ++ (← entries value))
        | .sequence items =>
          flattenFrom fuel id index (merged ++ (← flattenAll fuel items))
        | .scalar _ => throw .malformed
      | .default =>
        setText key
        flattenFrom fuel id (index + 1) merged
      | _ => flattenFrom fuel id (index + 1) merged

/-- The entries of several mappings to be merged, those of the last one first. -/
def flattenAll : (fuel : Nat) → List NodeId → Read (List (NodeId × NodeId))
  | 0, _ => throw .endless
  | _, [] => return []
  | fuel + 1, id :: rest => do
    discard <| entries id
    flatten fuel id
    let own ← entries id
    return (← flattenAll fuel rest) ++ own

end

/-- A bound for the steps of resolving merge marks. -/
def flattenFuel (nodes : Graph) : Nat :=
  let total := nodes.foldl
    (fun n node => match node.content with
      | .mapping es => n + es.length
      | .sequence items => n + items.length
      | .scalar _ => n) 0
  Nat.pow (total + 2) 3 + 100

/-- The entries of a mapping; keys are scalars, and of equal keys the first one stands with the last
value. -/
def mapEntries (id : NodeId) : Read (List (Datum × Value)) := do
  discard <| entries id
  flatten (flattenFuel (← get).nodes) id
  (← entries id).foldlM
    (fun es (k, v) => do
      match ← value k with
      | .cell _ => throw .malformed
      | .leaf key => return Datum.putEntry key (← value v) es)
    []

/-- The entries of a sequence of mappings with one entry each. -/
def pairEntries (id : NodeId) : Read (List (Value × Value)) := do
  match (← node id).content with
  | .sequence items =>
    items.mapM fun item => do
      match ← entries item with
      | [(k, v)] => return (← value k, ← value v)
      | _ => throw .malformed
  | _ => throw .malformed

/-- The content of a cell. -/
def cell (id : NodeId) : Read Cell := do
  match (← node id).tag with
  | .mapping => return .map (← mapEntries id)
  | .set => return .set ((← mapEntries id).map Prod.fst)
  | .orderedMap => return .pairs (← pairEntries id)
  | .pairs => return .pairs (← pairEntries id)
  | _ =>
    match (← node id).content with
    | .sequence items => return .list (← items.mapM value)
    | _ => throw .malformed

/-- Fills the cells of the queue. -/
def fillCells : (fuel : Nat) → Read Unit
  | 0 => return
  | fuel + 1 => do
    match (← get).queue with
    | [] => return
    | id :: rest =>
      modify fun r => { r with queue := rest }
      let c ← cell id
      modify fun r => { r with cells := (id, c) :: r.cells }
      fillCells fuel

end Read

/-- Reads the document in a text. -/
def Document.read (text : List Char) : Except Fault Document :=
  match readGraph text with
  | none => .error .malformed
  | some (_, none) => .ok ⟨none, []⟩
  | some (nodes, some root) => do
    let reading : Read Value := do
      let v ← Read.value root
      Read.fillCells (nodes.size + 1)
      return v
    let (v, r) ← reading.run { nodes }
    return ⟨some v, r.cells⟩

/-! ## Trees -/

namespace Document

/-- A place that is being shown: a cell, or one pair of a cell. -/
abbrev Place := NodeId × Option Nat

mutual

/-- A value as a tree within the places `above`. -/
def unfoldFrom (d : Document) : (fuel : Nat) → (above : List Place) → Value → Datum
  | 0, _, _ => .null
  | _, _, .leaf l => l
  | fuel + 1, above, .cell id =>
    let shape (c : Cell) : Shape := match c with
      | .list _ => .list
      | .pairs _ => .list
      | .map _ => .map
      | .set _ => .set
    match d.cells.lookup id with
    | none => .null
    | some c =>
      if above.contains (id, none) then .loop (shape c)
      else
        let above := (id, none) :: above
        match c with
        | .list items => .list (items.map (unfoldFrom d fuel above))
        | .pairs entries => .list (entries.mapIdx fun i e => unfoldPair d fuel above id i e)
        | .map entries => .map (entries.map fun e => (e.1, unfoldFrom d fuel above e.2))
        | .set items => .set items

/-- One pair of a cell as a tree. -/
def unfoldPair (d : Document) :
    (fuel : Nat) → (above : List Place) → NodeId → Nat → Value × Value → Datum
  | 0, _, _, _, _ => .null
  | fuel + 1, above, id, i, (k, v) =>
    if above.contains (id, some i) then .loop .pair
    else
      let above := (id, some i) :: above
      .pair (unfoldFrom d fuel above k) (unfoldFrom d fuel above v)

end

/-- A bound for the depth of trees. -/
def depth (d : Document) : Nat :=
  let pairs := d.cells.foldl
    (fun n c => match c.2 with
      | .pairs es => n + es.length
      | _ => n) 0
  2 * (d.cells.length + pairs) + 4

/-- A value as a tree, in which a collection within itself is cut off. -/
def unfold (d : Document) (v : Value) : Datum :=
  d.unfoldFrom d.depth [] v

/-- The value of an option as a tree. The items of a list are shown for themselves, so each of them
may hold the list once more. -/
def unfoldOption (d : Document) (v : Value) : Datum :=
  match v with
  | .leaf l => l
  | .cell id =>
    match d.cells.lookup id with
    | some (.list items) => .list (items.map d.unfold)
    | some (.pairs entries) =>
      .list (entries.mapIdx fun i e => d.unfoldPair d.depth [] id i e)
    | _ => d.unfold v

/-- The entries of a document that is a mapping; an empty document has none. -/
def entries? (d : Document) : Option (List (Datum × Datum)) :=
  match d.root with
  | none => some []
  | some (.leaf .null) => some []
  | some (.leaf _) => none
  | some (.cell id) =>
    match d.cells.lookup id with
    | some (.map entries) => some (entries.map fun e => (e.1, d.unfoldOption e.2))
    | _ => none

end Document

end DagAccess.Yaml
