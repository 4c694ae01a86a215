import StepFlow.Yaml.Meaning

/-!
# Reading YAML

The value of a YAML text. Tags decide what nodes mean; a tag outside the standard ones means nothing
here. Collections are filled level by level, from the outermost inwards, and the first thing that does
not fit on this way decides what is wrong with a text.

A mapping may take over the entries of others under the key `<<`. They come first, and entries of its
own override them. Of equal keys the last one gives the value and the first one the place.

## Main definitions

* `Filling` — the nodes of a document while they become values
* `flatten` — a mapping with what it takes over from others
* `fillAll` — every collection filled
* `valueOf` — the value of a node, when all is filled
* `read` — the value of a text
-/

namespace StepFlow.Yaml

/-- What a node has become. The parts of a collection are nodes. -/
inductive Made where
  | scalar (v : Value)
  | list (items : List Nat)
  /-- Rows of two. -/
  | rows (pairs : List (Nat × Nat))
  /-- Values by keys; with each key comes its node. -/
  | map (entries : List ((Nat × Value) × Nat))
  | set (keys : List (Nat × Value))
  deriving Repr, Inhabited

/-- The nodes of a document while they become values. -/
structure Filling where
  nodes : Array Node
  /-- What the nodes have become, as far as they are reached. -/
  made : Array (Option Made)
  /-- The collections that have been reached and not yet filled. -/
  waiting : List Nat := []
  deriving Inhabited

abbrev Filler := StateT Filling (Except Fault)

/-- A node by its number. -/
def nodeAt (n : Nat) : Filler Node := return (← get).nodes.getD n default

/-- Replace a node. -/
def replaceNode (n : Nat) (node : Node) : Filler Unit :=
  modify fun f => { f with nodes := f.nodes.setIfInBounds n node }

/-- Say what a node has become. -/
def become (n : Nat) (made : Made) : Filler Unit :=
  modify fun f => { f with made := f.made.setIfInBounds n (some made) }

/-! ### Single nodes -/

/-- The text that a node stands for: that of a scalar, or of the value that a mapping has under `=`.
There are no more nodes on the way than `fuel`, unless the way goes round. -/
def textOf : (fuel : Nat) → Nat → Filler String
  | 0, _ => throw .tooDeep
  | fuel + 1, n => do
    match ← nodeAt n with
    | .scalar _ text => return text
    | .sequence .. => malformed
    | .mapping _ entries =>
      let found ← entries.findM? fun e => return (← nodeAt e.1).tag = .value
      match found with
      | some (_, v) => textOf fuel v
      | none => malformed

/-- Reach a node: a scalar gets its value, a collection has to wait. -/
def reach (n : Nat) : Filler Unit := do
  let f ← get
  if ((f.made.getD n none).isSome) then return
  let node ← nodeAt n
  match node.tag with
  | .seq | .pairs | .map | .set =>
    become n (.list [])
    modify fun f => { f with waiting := f.waiting ++ [n] }
  | .merge | .value | .other _ => malformed
  | tag =>
    let text ← textOf (f.nodes.size + 1) n
    match tag, node with
    | .timestamp, .mapping .. => throw (.wrongKind "a date or time has to be a scalar")
    | _, _ => become n (.scalar (← scalarValue tag text))

/-! ### Mappings -/

/-- The mapping, from the entry at position `index` on, without the entries under `<<`, which `taken`
collects. Sources of a merge are flattened before they are taken over. A key `=` is text. -/
def flattenFrom : (fuel : Nat) → (n index : Nat) → (taken : List (Nat × Nat)) → Filler Unit
  | 0, _, _, _ => return
  | fuel + 1, n, index, taken => do
    match ← nodeAt n with
    | .mapping tag entries =>
      match entries[index]? with
      | none => replaceNode n (.mapping tag (taken ++ entries))
      | some (key, source) =>
        let keyNode ← nodeAt key
        match keyNode.tag with
        | .merge =>
          replaceNode n (.mapping tag (entries.eraseIdx index))
          let more ← match ← nodeAt source with
            | .mapping .. => do
              flattenFrom fuel source 0 []
              entriesAt source
            | .sequence _ items => do
              let groups ← items.mapM fun item => do
                match ← nodeAt item with
                | .mapping .. =>
                  flattenFrom fuel item 0 []
                  entriesAt item
                | _ => malformed
              pure groups.reverse.flatten
            | .scalar .. => malformed
          flattenFrom fuel n index (taken ++ more)
        | .value =>
          replaceNode key (keyNode.withTag .str)
          flattenFrom fuel n (index + 1) taken
        | _ => flattenFrom fuel n (index + 1) taken
    | _ => return
where
  /-- The entries of a mapping. -/
  entriesAt (n : Nat) : Filler (List (Nat × Nat)) := do
    match ← nodeAt n with
    | .mapping _ entries => return entries
    | _ => return []

/-- The number of entries of all mappings. -/
def entryCount (nodes : Array Node) : Nat :=
  nodes.foldl (fun sum node => sum + match node with
    | .mapping _ entries => entries.length
    | _ => 0) 0

/-- Flatten a mapping. -/
def flatten (n : Nat) : Filler Unit := do
  let nodes := (← get).nodes
  let bound := nodes.size + entryCount nodes + 2
  flattenFrom (bound * bound) n 0 []

/-- Two keys are the same: one node, equal values, or both the name of what is no number. -/
def sameKeys (x y : Nat × Value) : Filler Bool := do
  if x.1 = y.1 || x.2.sameKey y.2 then return true
  match ← nodeAt x.1, ← nodeAt y.1 with
  | .scalar .float a, .scalar .float b => return namesNoNumber a && namesNoNumber b
  | _, _ => return false

/-- Put a value under a key, in the place of the entry with that key or at the end. -/
def putEntry (key : Nat × Value) (value : Nat) :
    List ((Nat × Value) × Nat) → Filler (List ((Nat × Value) × Nat))
  | [] => return [(key, value)]
  | (k, v) :: rest => do
    if ← sameKeys k key then return (k, value) :: rest
    else return (k, v) :: (← putEntry key value rest)

/-- Reach the keys and values of a mapping. Collections are no keys. -/
def fillEntries : List (Nat × Nat) → List ((Nat × Value) × Nat) →
    Filler (List ((Nat × Value) × Nat))
  | [], filled => return filled
  | (k, v) :: rest, filled => do
    reach k
    match (← get).made.getD k none with
    | some (.scalar key) =>
      reach v
      fillEntries rest (← putEntry (k, key) v filled)
    | _ => malformed

/-- The entries of a mapping, flattened and reached. -/
def entriesOf (n : Nat) : Filler (List ((Nat × Value) × Nat)) := do
  flatten n
  match ← nodeAt n with
  | .mapping _ entries => fillEntries entries []
  | _ => malformed

/-! ### Collections -/

/-- The one entry of each mapping in a sequence. -/
def rowsOf : List Nat → Filler (List (Nat × Nat))
  | [] => return []
  | n :: rest => do
    match ← nodeAt n with
    | .mapping _ [(k, v)] =>
      reach k
      reach v
      return (k, v) :: (← rowsOf rest)
    | _ => malformed

/-- Fill a collection, whose parts are reached in order. -/
def fill (n : Nat) : Filler Unit := do
  let node ← nodeAt n
  match node.tag, node with
  | .seq, .sequence _ items =>
    items.forM reach
    become n (.list items)
  | .pairs, .sequence _ items => become n (.rows (← rowsOf items))
  | .map, _ => become n (.map (← entriesOf n))
  | .set, _ => become n (.set ((← entriesOf n).map (·.1)))
  | _, _ => malformed

/-- Fill the collections that wait, and those that are reached in doing so. Each waits only once. -/
def fillAll : (fuel : Nat) → Filler Unit
  | 0 => return
  | fuel + 1 => do
    match (← get).waiting with
    | [] => return
    | n :: rest =>
      modify fun f => { f with waiting := rest }
      fill n
      fillAll fuel

/-! ### Values -/

/-- The values that are known already, by node. -/
abbrev Known := Array (Option Value)

/-- The value of a node inside the nodes `path`, and the marks of the loops that are open in it. -/
def valueOf (made : Array (Option Made)) : (fuel : Nat) → (path : List Nat) → (n : Nat) →
    StateM Known (Value × List Nat)
  | 0, _, _ => return (.null, [])
  | fuel + 1, path, n => do
    if path.contains n then return (.loop n, [n])
    if let some v := (← get).getD n none then return (v, [])
    let part := valueOf made fuel (n :: path)
    let (body, marks) : Value × List Nat ← match made.getD n none with
      | some (.scalar v) => pure (v, [])
      | some (.list items) => do
        let parts ← items.mapM part
        pure (.list (parts.map (·.1)), parts.flatMap (·.2))
      | some (.rows pairs) => do
        let parts ← pairs.mapM fun (k, v) => do
          let (k, inKey) ← part k
          let (v, inValue) ← part v
          pure (Value.tuple [k, v], inKey ++ inValue)
        pure (.list (parts.map (·.1)), parts.flatMap (·.2))
      | some (.map entries) => do
        let parts ← entries.mapM fun (key, v) => do
          let (v, inValue) ← part v
          pure ((key.2, v), inValue)
        pure (.map (parts.map (·.1)), parts.flatMap (·.2))
      | some (.set keys) => pure (.set (keys.map (·.2)), [])
      | none => pure (.null, [])
    let marks := marks.eraseDups
    let (v, marks) := if marks.contains n then (.knot n body, marks.erase n) else (body, marks)
    if marks.isEmpty then modify fun known => known.setIfInBounds n (some v)
    return (v, marks)

/-- The value of a document. -/
def Graph.value (g : Graph) : Except Fault Value := do
  let size := g.nodes.size
  let filling : Filler Unit := do
    reach g.root
    fillAll (size + 1)
  let ((), f) ← filling.run { nodes := g.nodes, made := Array.replicate size none }
  let ((v, _), _) := (valueOf f.made (size + 1) [] g.root).run (Array.replicate size none)
  return v

/-! ### Texts -/

/-- The value of a YAML text. A text without a document is null. -/
def read (text : List Char) : Except Fault Value := do
  unless text.all isAllowed do malformed
  let (ts, fault) := tokens text
  match ← Graph.ofTokens ts fault with
  | some g => g.value
  | none => return .null

end StepFlow.Yaml
