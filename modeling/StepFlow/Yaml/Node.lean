import StepFlow.Yaml.Layout
import StepFlow.Yaml.Tag

/-!
# Nodes of a YAML document

A document consists of scalars, sequences and mappings, each with a tag, written or by its form. Since
an alias may refer to any node that has begun, even to one around it, nodes have numbers, and a
collection gives its parts by their numbers. `Graph.ofTokens` reads the one document that a token
sequence holds.

Collections may lie in one another up to a depth of `deepest`.

## Main definitions

* `Node`, `Graph` — the nodes of a document
* `Graph.ofTokens` — the document of a token sequence
-/

namespace StepFlow.Yaml

/-- A node; the parts of a collection are given by their numbers. -/
inductive Node where
  | scalar (tag : Tag) (text : String)
  | sequence (tag : Tag) (items : List Nat)
  | mapping (tag : Tag) (entries : List (Nat × Nat))
  deriving Repr, Inhabited

def Node.tag : Node → Tag
  | scalar tag _ | sequence tag _ | mapping tag _ => tag

/-- The node with another tag. -/
def Node.withTag (tag : Tag) : Node → Node
  | scalar _ text => scalar tag text
  | sequence _ items => sequence tag items
  | mapping _ entries => mapping tag entries

/-- The nodes of a document, by their numbers, and the outermost one. -/
structure Graph where
  nodes : Array Node
  root : Nat
  deriving Repr, Inhabited

/-- How deep collections may lie in one another. -/
def deepest : Nat := 488

namespace Graph

/-! ### Reading tokens -/

/-- What is known while nodes are read. -/
structure Progress where
  tokens : List Token
  /-- What ends the tokens. -/
  fault : Option Fault
  /-- The nodes that have begun. -/
  nodes : Array Node := #[]
  /-- The nodes with anchors. -/
  anchors : List (String × Nat) := []
  /-- What the handles of tags stand for. -/
  handles : List (String × String) := []

abbrev Reading := StateT Progress (Except Fault)

/-- The next token. -/
def peek : Reading Token := do
  let p ← get
  match p.tokens with
  | t :: _ => return t
  | [] => throw (p.fault.getD .notYaml)

/-- Pass over the next token. -/
def pass : Reading Unit := modify fun p => { p with tokens := p.tokens.drop 1 }

/-- The next token, which is passed over. -/
def take : Reading Token := do
  let t ← peek
  pass
  return t

/-- Pass over the next token if it is `t`. -/
def passIf (t : Token) : Reading Bool := do
  if (← peek) = t then
    pass
    return true
  else return false

/-- The next token has to be `t`. -/
def require (t : Token) : Reading Unit := do
  unless ← passIf t do throw .notYaml

/-- The next token is among `ts`. -/
def isAt (ts : List Token) : Reading Bool := return ts.contains (← peek)

/-! ### Properties -/

/-- An anchor and a tag in either order, as far as they are there. -/
def properties : Reading (Option String × Option TagText) := do
  match ← peek with
  | .anchor name =>
    pass
    match ← peek with
    | .tag t =>
      pass
      return (some name, some t)
    | _ => return (some name, none)
  | .tag t =>
    pass
    match ← peek with
    | .anchor name =>
      pass
      return (some name, some t)
    | _ => return (none, some t)
  | _ => return (none, none)

/-- The name of a tag; its handle has to be defined. -/
def tagName (t : TagText) : Reading String := do
  match t.handle with
  | none => return t.suffix
  | some handle =>
    match (← get).handles.find? (·.1 == handle) with
    | some (_, expansion) => return expansion ++ t.suffix
    | none => throw .notYaml

/-- No anchor may be used twice. -/
def requireNew (anchor : Option String) : Reading Unit := do
  if let some name := anchor then
    if (← get).anchors.any (·.1 == name) then throw .notYaml

/-- Add a node, with its anchor if it has one, and give its number. -/
def add (anchor : Option String) (node : Node) : Reading Nat := do
  let p ← get
  let number := p.nodes.size
  let anchors := match anchor with
    | some name => (name, number) :: p.anchors
    | none => p.anchors
  set { p with nodes := p.nodes.push node, anchors }
  return number

/-- Add a collection. It has its number, and its anchor, before its parts are read. -/
def addCollection (anchor : Option String) (parts : Reading Node) : Reading Nat := do
  let number ← add anchor default
  let node ← parts
  modify fun p => { p with nodes := p.nodes.setIfInBounds number node }
  return number

/-- The node that an alias refers to. -/
def aliased (name : String) : Reading Nat := do
  match (← get).anchors.find? (·.1 == name) with
  | some (_, number) => return number
  | none => throw .notYaml

/-! ### Nodes -/

/-- Add the empty plain scalar. -/
def addEmpty : Reading Nat := add none (.scalar .null "")

/-- Go into a collection, if there is room for one more. -/
def enter {α : Type} (room : Nat) (parts : (room : Nat) → Reading α) : Reading α :=
  match room with
  | 0 => throw .tooDeep
  | room + 1 => parts room

/-- The tag of a scalar. An exclamation mark alone calls for the tag by form, quoted or not. -/
def scalarTag (written : Option String) (plain : Bool) (text : String) : Tag :=
  match written with
  | some "!" => .ofForm text
  | some name => .ofName name
  | none => if plain then .ofForm text else .str

/-- The tag of a collection. -/
def collectionTag (written : Option String) (default : Tag) : Tag :=
  match written with
  | some "!" | none => default
  | some name => .ofName name

mutual

/-- A node. `block` tells whether it may be a block collection, `indentless` whether it may be a
sequence whose signs stand in the column of the mapping around it; `room` is the depth that is left. -/
def node (block indentless : Bool) (room : Nat) : (fuel : Nat) → Reading Nat
  | 0 => throw .notYaml
  | fuel + 1 => do
    if let .alias name ← peek then
      pass
      return ← aliased name
    let (anchor, tag) ← properties
    let tag ← tag.mapM tagName
    requireNew anchor
    let sequence (items : Reading (List Nat)) : Reading Nat :=
      addCollection anchor do return .sequence (collectionTag tag .seq) (← items)
    let mapping (entries : Reading (List (Nat × Nat))) : Reading Nat :=
      addCollection anchor do return .mapping (collectionTag tag .map) (← entries)
    match ← peek with
    | .scalar plain text =>
      pass
      add anchor (.scalar (scalarTag tag plain text) text)
    | .flowSequenceStart =>
      pass
      enter room fun room => sequence (flowItems room true fuel)
    | .flowMappingStart =>
      pass
      enter room fun room => mapping (flowEntries room true fuel)
    | .blockSequenceStart =>
      unless block do throw .notYaml
      pass
      enter room fun room => sequence (blockItems room fuel)
    | .blockMappingStart =>
      unless block do throw .notYaml
      pass
      enter room fun room => mapping (blockEntries room fuel)
    | t =>
      if indentless && t = .blockEntry then
        enter room fun room => sequence (indentlessItems room fuel)
      else if anchor.isSome || tag.isSome then
        add anchor (.scalar (scalarTag tag true "") "")
      else throw .notYaml
termination_by structural fuel => fuel

/-- A node, or the empty scalar where one of `ends` follows. -/
def nodeUnless (ends : List Token) (block indentless : Bool) (room : Nat) :
    (fuel : Nat) → Reading Nat
  | 0 => throw .notYaml
  | fuel + 1 => do
    if ← isAt ends then addEmpty else node block indentless room fuel
termination_by structural fuel => fuel

/-- The items of a block sequence, with its end. -/
def blockItems (room : Nat) : (fuel : Nat) → Reading (List Nat)
  | 0 => throw .notYaml
  | fuel + 1 => do
    if ← passIf .blockEntry then
      let item ← nodeUnless [.blockEntry, .blockEnd] true false room fuel
      return item :: (← blockItems room fuel)
    else
      require .blockEnd
      return []
termination_by structural fuel => fuel

/-- The items of a sequence in the column of the mapping around it. -/
def indentlessItems (room : Nat) : (fuel : Nat) → Reading (List Nat)
  | 0 => throw .notYaml
  | fuel + 1 => do
    if ← passIf .blockEntry then
      let item ← nodeUnless [.blockEntry, .key, .value, .blockEnd] true false room fuel
      return item :: (← indentlessItems room fuel)
    else return []
termination_by structural fuel => fuel

/-- The entries of a block mapping, with its end. -/
def blockEntries (room : Nat) : (fuel : Nat) → Reading (List (Nat × Nat))
  | 0 => throw .notYaml
  | fuel + 1 => do
    let ends := [.key, .value, .blockEnd]
    if ← passIf .key then
      let key ← nodeUnless ends true true room fuel
      let value ← if ← passIf .value then nodeUnless ends true true room fuel else addEmpty
      return (key, value) :: (← blockEntries room fuel)
    else
      require .blockEnd
      return []
termination_by structural fuel => fuel

/-- What follows a key in a flow collection: the value, or nothing before one of `ends`. -/
def flowValue (ends : List Token) (room : Nat) : (fuel : Nat) → Reading Nat
  | 0 => throw .notYaml
  | fuel + 1 => do
    if ← passIf .value then nodeUnless ends false false room fuel else addEmpty
termination_by structural fuel => fuel

/-- The items of a flow sequence, with its end. A key among them begins a mapping of one entry. -/
def flowItems (room : Nat) (first : Bool) : (fuel : Nat) → Reading (List Nat)
  | 0 => throw .notYaml
  | fuel + 1 => do
    if ← passIf .flowSequenceEnd then return []
    unless first do require .flowEntry
    let ends := [.flowEntry, .flowSequenceEnd]
    if ← passIf .key then
      let item ← enter room fun room => addCollection none do
        let key ← nodeUnless (.value :: ends) false false room fuel
        let value ← flowValue ends room fuel
        return .mapping .map [(key, value)]
      return item :: (← flowItems room false fuel)
    else if ← passIf .flowSequenceEnd then return []
    else
      let item ← node false false room fuel
      return item :: (← flowItems room false fuel)
termination_by structural fuel => fuel

/-- The entries of a flow mapping, with its end. A node without a key sign is a key without value. -/
def flowEntries (room : Nat) (first : Bool) : (fuel : Nat) → Reading (List (Nat × Nat))
  | 0 => throw .notYaml
  | fuel + 1 => do
    if ← passIf .flowMappingEnd then return []
    unless first do require .flowEntry
    let ends := [.flowEntry, .flowMappingEnd]
    if ← passIf .key then
      let key ← nodeUnless (.value :: ends) false false room fuel
      let value ← flowValue ends room fuel
      return (key, value) :: (← flowEntries room false fuel)
    else if ← passIf .flowMappingEnd then return []
    else
      let key ← node false false room fuel
      return (key, ← addEmpty) :: (← flowEntries room false fuel)
termination_by structural fuel => fuel

end

/-! ### Documents -/

/-- The handles that need no directive. -/
def defaultHandles : List (String × String) := [("!", "!"), ("!!", Tag.standardSpace)]

/-- The directives before a document: what the handles of its tags stand for. -/
def directives : (fuel : Nat) → (versioned : Bool) → List (String × String) →
    Reading (List (String × String))
  | 0, _, _ => throw .notYaml
  | fuel + 1, versioned, handles => do
    match ← peek with
    | .directive (.version major _) =>
      pass
      if versioned || major ≠ 1 then throw .notYaml
      directives fuel true handles
    | .directive (.tag handle expansion) =>
      pass
      if handles.any (·.1 == handle) then throw .notYaml
      directives fuel versioned ((handle, expansion) :: handles)
    | .directive .other =>
      pass
      directives fuel versioned handles
    | _ => return handles

/-- Pass over the marks of a document's end. -/
def passEnds : (fuel : Nat) → Reading Unit
  | 0 => return
  | fuel + 1 => do
    if ← passIf .documentEnd then passEnds fuel

/-- The document of a stream that holds at most one; nothing if it holds none. -/
def document (fuel : Nat) : Reading (Option Nat) := do
  match ← peek with
  | .streamEnd => return none
  | .directive _ | .documentStart =>
    let handles ← directives fuel false []
    require .documentStart
    modify fun p => { p with handles := handles ++ defaultHandles }
    let root ←
      match ← peek with
      | .directive _ | .documentStart | .documentEnd | .streamEnd => addEmpty
      | _ => node true false deepest fuel
    passEnds fuel
    require .streamEnd
    return some root
  | _ =>
    modify fun p => { p with handles := defaultHandles }
    let root ← node true false deepest fuel
    passEnds fuel
    require .streamEnd
    return some root

/-- The document of a token sequence and the fault that ends it, if there is one. Every second step
at least passes over a token. -/
def ofTokens (tokens : List Token) (fault : Option Fault) : Except Fault (Option Graph) := do
  let (root, p) ← (document (4 * tokens.length + 4)).run { tokens, fault }
  return root.map fun root => ⟨p.nodes, root⟩

end Graph

end StepFlow.Yaml
