import DagAccess.Yaml.Token
import DagAccess.Yaml.Tag

/-!
# Nodes of a YAML document

The nodes of a document are numbered. An alias stands for the number of the node that it names, so a
node may have several parents, and even contain itself. A text holds one document at most.
-/

namespace DagAccess.Yaml

/-- The number of a node. -/
abbrev NodeId := Nat

/-- What a node consists of. -/
inductive Content
  | scalar (text : String)
  | sequence (items : List NodeId)
  | mapping (entries : List (NodeId × NodeId))
  deriving Repr

/-- A node: its kind and its content. -/
structure Node where
  tag : Tag
  content : Content
  deriving Repr

instance : Inhabited Node := ⟨⟨.unknown, .scalar ""⟩⟩

/-- The nodes of a document by their numbers. -/
abbrev Graph := Array Node

/-! ## Building nodes from tokens -/

/-- The tokens that are left, and what was built. -/
structure Builder where
  tokens : List Token
  nodes : Graph := #[]
  anchors : List (String × NodeId) := []
  /-- The abbreviations of tags in force. -/
  tagPrefixes : List (String × String) := []

/-- Building ends with nothing where the tokens make no document. -/
abbrev Build := StateT Builder Option

namespace Build

/-- The next token. -/
def peek : Build (Option Token) := do
  return (← get).tokens.head?

/-- Passes the next token. -/
def skip : Build Unit :=
  modify fun b => { b with tokens := b.tokens.drop 1 }

/-- Passes the next token, which has to be this one. -/
def expect (token : Token) : Build Unit := do
  if (← peek) = some token then skip else failure

/-- Adds a node, which an anchor may name. No name is given twice. -/
def add (anchor : Option String) (node : Node) : Build NodeId := do
  let b ← get
  let id := b.nodes.size
  match anchor with
  | none => set { b with nodes := b.nodes.push node }
  | some name =>
    if (b.anchors.lookup name).isSome then failure
    set { b with nodes := b.nodes.push node, anchors := (name, id) :: b.anchors }
  return id

/-- Fills in the content of a node. -/
def fill (id : NodeId) (content : Content) : Build Unit :=
  modify fun b => { b with nodes := b.nodes.modify id fun n => { n with content } }

/-- A node with an empty plain scalar. -/
def addEmpty : Build NodeId :=
  add none ⟨.null, .scalar ""⟩

/-- The anchor and the full name of the tag before a node. -/
structure Properties where
  anchor : Option String := none
  tag : Option String := none

/-- The full name of a tag. -/
def tagName (handle suffix : String) : Build String := do
  if handle.isEmpty then return suffix
  match (← get).tagPrefixes.lookup handle with
  | some leader => return leader ++ suffix
  | none => failure

/-- Reads an anchor and a tag, in either order. -/
def properties : Build Properties := do
  match ← peek with
  | some (.anchor name) =>
    skip
    match ← peek with
    | some (.tag handle suffix) =>
      skip
      return { anchor := some name, tag := some (← tagName handle suffix) }
    | _ => return { anchor := some name }
  | some (.tag handle suffix) =>
    skip
    match ← peek with
    | some (.anchor name) =>
      skip
      return { anchor := some name, tag := some (← tagName handle suffix) }
    | _ => return { tag := some (← tagName handle suffix) }
  | _ => return {}

/-- The tag that leaves the kind of a node open. -/
def openTag : String := "!"

/-- The kind of a scalar. A plain scalar without a tag, and any scalar with the open tag, is judged
by its text. -/
def scalarTag (tag : Option String) (plain : Bool) (text : String) : Tag :=
  match tag with
  | none => if plain then .ofPlain text else .text
  | some name => if name = openTag then .ofPlain text else .ofName name

/-- The kind of a collection. -/
def collectionTag (tag : Option String) (usual : Tag) : Tag :=
  match tag with
  | none => usual
  | some name => if name = openTag then usual else .ofName name

/-- The kind of a node without content. -/
def emptyTag (tag : Option String) : Tag :=
  match tag with
  | none => .null
  | some name => if name = openTag then .text else .ofName name

/-- One of the tokens comes next. -/
def meets (tokens : List Token) : Build Bool := do
  match ← peek with
  | some token => return tokens.contains token
  | none => return false

mutual

/-- A node. Block collections count only where `block` says so; entries of a sequence without
indentation of its own only where `flush` does. -/
def node (block flush : Bool) : (fuel : Nat) → Build NodeId
  | 0 => failure
  | fuel + 1 => do
    if let some (.alias name) ← peek then
      skip
      match (← get).anchors.lookup name with
      | some id => return id
      | none => failure
    let p ← properties
    let sequence : Build NodeId := add p.anchor ⟨collectionTag p.tag .sequence, .sequence []⟩
    let mapping : Build NodeId := add p.anchor ⟨collectionTag p.tag .mapping, .mapping []⟩
    let empty : Build NodeId :=
      if p.anchor.isSome || p.tag.isSome then add p.anchor ⟨emptyTag p.tag, .scalar ""⟩ else failure
    match ← peek with
    | some (.scalar text plain) =>
      skip
      add p.anchor ⟨scalarTag p.tag plain text, .scalar text⟩
    | some .flowSequenceStart =>
      skip
      let id ← sequence
      fill id (.sequence (← flowItems true fuel))
      return id
    | some .flowMappingStart =>
      skip
      let id ← mapping
      fill id (.mapping (← flowEntries true fuel))
      return id
    | some .entry =>
      if flush then
        let id ← sequence
        fill id (.sequence (← flushItems fuel))
        return id
      else empty
    | some .sequenceStart =>
      if block then
        skip
        let id ← sequence
        fill id (.sequence (← blockItems fuel))
        return id
      else empty
    | some .mappingStart =>
      if block then
        skip
        let id ← mapping
        fill id (.mapping (← blockEntries fuel))
        return id
      else empty
    | _ => empty

/-- The items of a block sequence. -/
def blockItems : (fuel : Nat) → Build (List NodeId)
  | 0 => failure
  | fuel + 1 => do
    match ← peek with
    | some .entry =>
      skip
      let item ← if ← meets [.entry, .blockEnd] then addEmpty else node true false fuel
      return item :: (← blockItems fuel)
    | some .blockEnd =>
      skip
      return []
    | _ => failure

/-- The items of a block sequence that is indented like the mapping around it. -/
def flushItems : (fuel : Nat) → Build (List NodeId)
  | 0 => failure
  | fuel + 1 => do
    match ← peek with
    | some .entry =>
      skip
      let item ← if ← meets [.entry, .key, .value, .blockEnd] then addEmpty
        else node true false fuel
      return item :: (← flushItems fuel)
    | _ => return []

/-- The entries of a block mapping. -/
def blockEntries : (fuel : Nat) → Build (List (NodeId × NodeId))
  | 0 => failure
  | fuel + 1 => do
    match ← peek with
    | some .key =>
      skip
      let key ← if ← meets [.key, .value, .blockEnd] then addEmpty else node true true fuel
      let value ←
        if ← meets [.value] then do
          skip
          if ← meets [.key, .value, .blockEnd] then addEmpty else node true true fuel
        else addEmpty
      return (key, value) :: (← blockEntries fuel)
    | some .blockEnd =>
      skip
      return []
    | _ => failure

/-- The items of a flow sequence. An item with a key is a mapping of one entry. -/
def flowItems (first : Bool) : (fuel : Nat) → Build (List NodeId)
  | 0 => failure
  | fuel + 1 => do
    if ← meets [.flowSequenceEnd] then
      skip
      return []
    if !first then expect .flowEntry
    match ← peek with
    | some .flowSequenceEnd =>
      skip
      return []
    | some .key =>
      skip
      let id ← add none ⟨.mapping, .mapping []⟩
      let key ←
        if ← meets [.value, .flowEntry, .flowSequenceEnd] then do
          skip
          addEmpty
        else node false false fuel
      let value ←
        if ← meets [.value] then do
          skip
          if ← meets [.flowEntry, .flowSequenceEnd] then addEmpty else node false false fuel
        else addEmpty
      fill id (.mapping [(key, value)])
      return id :: (← flowItems false fuel)
    | _ =>
      let item ← node false false fuel
      return item :: (← flowItems false fuel)

/-- The entries of a flow mapping. -/
def flowEntries (first : Bool) : (fuel : Nat) → Build (List (NodeId × NodeId))
  | 0 => failure
  | fuel + 1 => do
    if ← meets [.flowMappingEnd] then
      skip
      return []
    if !first then expect .flowEntry
    match ← peek with
    | some .flowMappingEnd =>
      skip
      return []
    | some .key =>
      skip
      let key ←
        if ← meets [.value, .flowEntry, .flowMappingEnd] then addEmpty else node false false fuel
      let value ←
        if ← meets [.value] then do
          skip
          if ← meets [.flowEntry, .flowMappingEnd] then addEmpty else node false false fuel
        else addEmpty
      return (key, value) :: (← flowEntries false fuel)
    | _ =>
      let key ← node false false fuel
      let value ← addEmpty
      return (key, value) :: (← flowEntries false fuel)

end

/-- The abbreviations of tags that hold without a directive. -/
def usualPrefixes : List (String × String) :=
  [("!", "!"), ("!!", Tag.leader)]

/-- Reads the directives before a document: one version at most, and one meaning for each
abbreviation. Says whether there are any. -/
def directives : (fuel : Nat) → (versioned : Bool) → Build Bool
  | 0, versioned => return versioned
  | fuel + 1, versioned => do
    match ← peek with
    | some .version =>
      if versioned then failure
      skip
      discard <| directives fuel true
      return true
    | some (.tagPrefix handle leader) =>
      let b ← get
      if (b.tagPrefixes.lookup handle).isSome then failure
      set { b with tagPrefixes := (handle, leader) :: b.tagPrefixes }
      skip
      discard <| directives fuel versioned
      return true
    | _ => return versioned

/-- The root of the only document, if there is one. -/
def document : Build (Option NodeId) := do
  let size := (← get).tokens.length
  if size = 0 then return none
  let announced ← directives size false
  modify fun b => { b with tagPrefixes := b.tagPrefixes ++ usualPrefixes }
  let explicit ← meets [.documentStart]
  if announced && !explicit then failure
  if explicit then skip
  let ends := (← peek).all (· = .documentEnd)
  let root ← if explicit && ends then addEmpty else node true false (4 * size + 8)
  modify fun b => { b with tokens := b.tokens.dropWhile (· = .documentEnd) }
  if (← get).tokens.isEmpty then return some root else failure

end Build

/-- The nodes and the root of the document in a text. -/
def readGraph (text : List Char) : Option (Graph × Option NodeId) := do
  let tokens ← tokenize text
  let (root, b) ← Build.document.run { tokens }
  return (b.nodes, root)

end DagAccess.Yaml
