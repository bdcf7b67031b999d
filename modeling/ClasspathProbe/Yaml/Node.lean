import ClasspathProbe.Yaml.Scalar
import ClasspathProbe.Yaml.Token

/-!
# Nodes of a YAML document

The tokens of a stream give at most one document: a graph of scalars, sequences and mappings, each
with its tag. Nodes go by numbers, in the order in which they begin. A node may have a name, unique
in its document, and a later place, be it within the node itself, may stand for the node of a name:
it gets the same number.
-/

namespace ClasspathProbe.Yaml

/-- What a node holds; other nodes are given by their numbers. -/
inductive Content where
  | scalar (text : Text)
  | sequence (items : List Nat)
  | mapping (pairs : List (Nat × Nat))

/-- A node of a document. -/
structure Node where
  tag : Text
  content : Content

instance : Inhabited Node := ⟨⟨[], .scalar []⟩⟩

/-- The nodes of a document by their numbers; the root has the number zero. -/
abbrev Graph := Array Node

/-- What is left to read, the nodes so far, the numbers that names stand for, the tag handles of the
document, and how many collections are open. -/
structure Reader where
  rest : List Token
  graph : Graph := #[]
  names : List (Text × Nat) := []
  handles : List (Text × Text) := []
  depth : Nat := 0

/-- Something that reads a part of a document. -/
abbrev NodeReader := StateT Reader (Except Fault)

namespace NodeReader

def refuse {α : Type} : NodeReader α := throw .malformed

/-- The next token, if the stream does not end here. -/
def peek : NodeReader (Option Token) := do
  match (← get).rest with
  | .fault f :: _ => throw f
  | t :: _ => return some t
  | [] => return none

def skip : NodeReader Unit := modify fun r => { r with rest := r.rest.tail }

/-- Passes over the next token if it is a given one. -/
def skipIf (t : Token) : NodeReader Bool := do
  if (← peek) = some t then
    skip
    return true
  else return false

/-- Whether the next token is one of some. -/
def nextIn (ts : List Token) : NodeReader Bool := do return (← peek).any ts.contains

def commonHandles : List (Text × Text) := [(['!'], ['!']), ("!!", standardTag)]

/-- The full tag that a tag token says. -/
def fullTag (handle : Option Text) (rest : Text) : NodeReader Text := do
  match handle with
  | none => return rest
  | some h =>
    match ((← get).handles ++ commonHandles).lookup h with
    | some leading => return leading ++ rest
    | none => refuse

/-- The name and the tag in front of a node, in either order. -/
def properties : NodeReader (Option Text × Option Text) := do
  let name? : NodeReader (Option Text) := do
    match ← peek with
    | some (.anchor name) => skip; return some name
    | _ => return none
  let tag? : NodeReader (Option (Option Text × Text)) := do
    match ← peek with
    | some (.tag handle rest) => skip; return some (handle, rest)
    | _ => return none
  let first ← name?
  let tag ← tag?
  let name ← if first.isNone && tag.isSome then name? else pure first
  match tag with
  | some (handle, rest) => return (name, some (← fullTag handle rest))
  | none => return (name, none)

/-- Whether a tag leaves it open of what kind a node is. -/
def isOpen (tag : Option Text) : Bool := tag = none || tag = some ['!']

def collectionTag (tag : Option Text) (standard : Text) : Text :=
  if isOpen tag then standard else tag.getD standard

/-- Gives a node the next number, and its name if it has one; a name that is taken is refused. -/
def introduce (name : Option Text) (n : Node) : NodeReader Nat := do
  let r ← get
  match name with
  | none => set { r with graph := r.graph.push n }
  | some name =>
    if (r.names.lookup name).isSome then refuse
    set { r with graph := r.graph.push n, names := (name, r.graph.size) :: r.names }
  return r.graph.size

/-- A scalar that is not there. -/
def empty : NodeReader Nat := introduce none ⟨nullTag, .scalar []⟩

/-- How many collections may stand in one another. -/
def mostNested : Nat := 488

/-- Reads a collection that has begun: it has its number, and its parts may refer to it. -/
def collection (name : Option Text) (tag : Text) (parts : NodeReader Content) :
    NodeReader Nat := do
  let id ← introduce name ⟨tag, .scalar []⟩
  if mostNested < (← get).depth then throw (.scalar .depth)
  modify fun r => { r with depth := r.depth + 1 }
  let content ← parts
  modify fun r =>
    { r with graph := r.graph.setIfInBounds id ⟨tag, content⟩, depth := r.depth - 1 }
  return id

mutual

/-- Reads a node. In block context block collections may follow; where `indentless` is set, also a
sequence that is not indented further than its key. -/
def node : (fuel : Nat) → (block indentless : Bool) → NodeReader Nat
  | 0, _, _ => refuse
  | fuel + 1, block, indentless => do
    match ← peek with
    | some (.alias name) =>
      skip
      match (← get).names.lookup name with
      | some id => return id
      | none => refuse
    | _ =>
      let (name, tag) ← properties
      let sequence (items : NodeReader (List Nat)) : NodeReader Nat :=
        collection name (collectionTag tag sequenceTag) (.sequence <$> items)
      let mapping (pairs : NodeReader (List (Nat × Nat))) : NodeReader Nat :=
        collection name (collectionTag tag mappingTag) (.mapping <$> pairs)
      match ← peek with
      | some (.scalar text plain) =>
        skip
        introduce name ⟨openTag tag plain text, .scalar text⟩
      | some .flowSequenceStart =>
        skip
        sequence (flowItems fuel true)
      | some .flowMappingStart =>
        skip
        mapping (flowPairs fuel true)
      | next =>
        if indentless && next = some .blockEntry then sequence (indentlessItems fuel)
        else if block && next = some .blockSequenceStart then
          skip
          sequence (blockItems fuel)
        else if block && next = some .blockMappingStart then
          skip
          mapping (blockPairs fuel)
        else if name.isSome || tag.isSome then introduce name ⟨openTag tag true [], .scalar []⟩
        else refuse

/-- Reads the entries of a block sequence, up to its end. -/
def blockItems : (fuel : Nat) → NodeReader (List Nat)
  | 0 => refuse
  | fuel + 1 => do
    if ← skipIf .blockEntry then
      let item ←
        if ← nextIn [.blockEntry, .blockEnd] then empty else node fuel true false
      return item :: (← blockItems fuel)
    else if ← skipIf .blockEnd then return []
    else refuse

/-- Reads the entries of a sequence that is not indented further than its key. -/
def indentlessItems : (fuel : Nat) → NodeReader (List Nat)
  | 0 => refuse
  | fuel + 1 => do
    if ← skipIf .blockEntry then
      let item ←
        if ← nextIn [.blockEntry, .key, .value, .blockEnd] then empty else node fuel true false
      return item :: (← indentlessItems fuel)
    else return []

/-- Reads the pairs of a block mapping, up to its end. -/
def blockPairs : (fuel : Nat) → NodeReader (List (Nat × Nat))
  | 0 => refuse
  | fuel + 1 => do
    let part : NodeReader Nat := do
      if ← nextIn [.key, .value, .blockEnd] then empty else node fuel true true
    if ← skipIf .key then
      let k ← part
      let v ← if ← skipIf .value then part else empty
      return (k, v) :: (← blockPairs fuel)
    else if ← skipIf .blockEnd then return []
    else refuse

/-- Reads the entries of a flow sequence, up to its end; a pair among them is a mapping. -/
def flowItems : (fuel : Nat) → (first : Bool) → NodeReader (List Nat)
  | 0, _ => refuse
  | fuel + 1, first => do
    if ← skipIf .flowSequenceEnd then return []
    if !first then
      if !(← skipIf .flowEntry) then refuse
    if ← skipIf .key then
      let pair : NodeReader Content := do
        let k ←
          if ← nextIn [.value, .flowEntry, .flowSequenceEnd] then empty
          else node fuel false false
        let v ←
          if ← skipIf .value then
            if ← nextIn [.flowEntry, .flowSequenceEnd] then empty else node fuel false false
          else empty
        return .mapping [(k, v)]
      let item ← collection none mappingTag pair
      return item :: (← flowItems fuel false)
    else if ← skipIf .flowSequenceEnd then return []
    else
      let item ← node fuel false false
      return item :: (← flowItems fuel false)

/-- Reads the pairs of a flow mapping, up to its end. -/
def flowPairs : (fuel : Nat) → (first : Bool) → NodeReader (List (Nat × Nat))
  | 0, _ => refuse
  | fuel + 1, first => do
    if ← skipIf .flowMappingEnd then return []
    if !first then
      if !(← skipIf .flowEntry) then refuse
    if ← skipIf .key then
      let k ←
        if ← nextIn [.value, .flowEntry, .flowMappingEnd] then empty else node fuel false false
      let v ←
        if ← skipIf .value then
          if ← nextIn [.flowEntry, .flowMappingEnd] then empty else node fuel false false
        else empty
      return (k, v) :: (← flowPairs fuel false)
    else if ← skipIf .flowMappingEnd then return []
    else
      let k ← node fuel false false
      let v ← empty
      return (k, v) :: (← flowPairs fuel false)

end

def skipEnds : (fuel : Nat) → NodeReader Unit
  | 0 => return ()
  | fuel + 1 => do if ← skipIf .documentEnd then skipEnds fuel

/-- Reads the directives in front of a document. -/
def directives : (fuel : Nat) → (versionSeen : Bool) → NodeReader Unit
  | 0, _ => return ()
  | fuel + 1, versionSeen => do
    match ← peek with
    | some (.version major) =>
      if versionSeen || major ≠ 1 then refuse
      skip
      directives fuel true
    | some (.tagHandle h leading) =>
      let r ← get
      if (r.handles.lookup h).isSome then refuse
      set { r with handles := (h, leading) :: r.handles }
      skip
      directives fuel versionSeen
    | some .otherDirective =>
      skip
      directives fuel versionSeen
    | _ => return ()

/-- Whether the next token belongs to the lines in front of a document. -/
def atDirective : NodeReader Bool := do
  match ← peek with
  | some (.version _) | some (.tagHandle ..) | some .otherDirective => return true
  | _ => return false

/-- Reads the one document of a stream and says whether there is one. A second document is refused,
once the lines in front of it have been read. -/
def stream (fuel : Nat) : NodeReader Bool := do
  let first ← peek
  if first.isNone then return false
  if (← atDirective) || first = some .documentStart then
    directives fuel false
    if !(← skipIf .documentStart) then refuse
    let bare := (← peek).isNone || (← nextIn [.documentStart, .documentEnd]) || (← atDirective)
    let _ ← if bare then empty else node fuel true false
  else
    let _ ← node fuel true false
  skipEnds fuel
  if (← peek).isSome then
    modify fun r => { r with handles := [] }
    directives fuel false
    let _ ← peek
    refuse
  return true

end NodeReader

/-- The document that a stream holds, if it holds one. -/
def Graph.ofStream (s : Text) : Except Fault (Option Graph) := do
  let ts := tokens s
  let (found, r) ← (NodeReader.stream (4 * ts.length + 8)).run { rest := ts }
  return if found then some r.graph else none

end ClasspathProbe.Yaml
