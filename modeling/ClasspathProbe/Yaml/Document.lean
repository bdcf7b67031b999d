import ClasspathProbe.Yaml.Node

/-!
# Values of a YAML document

The value of a document: its root with the nodes put in that it refers to, mappings merged where a
merge key asks for it, and scalars read by their kinds. Values are made level by level from the
root, which decides which of several faults is the one that counts, and how far mappings have been
merged when something else looks at them. A collection that holds itself shows a mark in its own
place.
-/

namespace ClasspathProbe.Yaml

/-- The kinds of nodes that have a value. -/
inductive Kind where
  | scalar (read : Text → Except Fault Value)
  | sequence
  | mapping
  | set
  /-- A sequence of mappings with one pair each. -/
  | pairs

/-- The kind that a tag says. -/
def kindOf (tag : Text) : Option Kind :=
  let reading (f : Text → Except ScalarFault Value) : Kind :=
    .scalar fun s => (f s).mapError Fault.scalar
  let kinds : List (Text × Kind) :=
    [("null", .scalar fun _ => .ok .null), ("bool", reading truthValue),
     ("int", reading integerValue), ("float", reading floatValue),
     ("timestamp", reading stampValue), ("str", .scalar fun s => .ok (.text s)),
     ("binary", .scalar fun s =>
        match bytesValue? s with
        | some v => .ok v
        | none => .error .malformed),
     ("seq", .sequence), ("map", .mapping), ("set", .set), ("omap", .pairs), ("pairs", .pairs)]
  (Text.after? standardTag tag).bind fun kind => kinds.lookup kind

/-- What has been made of a node: a value, or a collection of other nodes. -/
inductive Made where
  | value (v : Value)
  | list (items : List Nat)
  | mapping (pairs : List (Nat × Nat))
  | set (pairs : List (Nat × Nat))
  | pairs (pairs : List (Nat × Nat))

def Made.shape : Made → Shape
  | .mapping _ => .mapping
  | .set _ => .set
  | _ => .list

/-- A document whose values are being made. -/
structure Builder where
  graph : Graph
  /-- What has been made of the nodes; a collection that has begun is empty for now. -/
  made : Array (Option Made)
  /-- The collections that have begun, in order. -/
  begun : Array Nat := #[]

/-- Something that makes a part of a value. -/
abbrev Making := StateT Builder (Except Fault)

namespace Making

def refuse {α : Type} : Making α := throw .malformed

def node (id : Nat) : Making Node := do return (← get).graph.getD id default

def change (id : Nat) (f : Node → Node) : Making Unit := do
  let n ← node id
  modify fun b => { b with graph := b.graph.setIfInBounds id (f n) }

def setPairs (id : Nat) (pairs : List (Nat × Nat)) : Making Unit :=
  change id fun n => { n with content := .mapping pairs }

/-- The pairs of a mapping; anything else is refused. -/
def pairsOf (id : Nat) : Making (List (Nat × Nat)) := do
  match (← node id).content with
  | .mapping pairs => return pairs
  | _ => refuse

/-! ## Merging -/

/-- Splits pairs at the first one whose key merges: the value of that one, and the other pairs. -/
def splitMerge (graph : Graph) : List (Nat × Nat) → Option (Nat × List (Nat × Nat))
  | [] => none
  | (k, v) :: ps =>
    if (graph.getD k default).tag = mergeTag then some (v, ps)
    else (splitMerge graph ps).map fun (found, rest) => (found, (k, v) :: rest)

/-- Makes a key that stands for a mapping's own value a text. -/
def plainKey (key : Nat) : Making Unit := do
  if (← node key).tag = valueTag then change key fun n => { n with tag := textTag }

/-- Puts in front of the pairs of a mapping the pairs that its merge keys bring in, in the order of
those keys. A merge key is taken away before what it brings in is looked at, so a mapping that
merges itself brings in what else it has, and each merge key is gone through once: their number
bounds the depth. -/
def flatten : (fuel : Nat) → (id : Nat) → Making Unit
  | 0, _ => return ()
  | fuel + 1, id => do
    match splitMerge (← get).graph (← pairsOf id) with
    | none =>
      for (k, _) in ← pairsOf id do plainKey k
    | some (source, others) =>
      setPairs id others
      let bring (source : Nat) : Making (List (Nat × Nat)) := do
        let _ ← pairsOf source
        flatten fuel source
        pairsOf source
      let brought ←
        match (← node source).content with
        | .sequence items => do pure (← items.mapM bring).reverse.flatten
        | _ => bring source
      flatten fuel id
      setPairs id (brought ++ (← pairsOf id))

/-! ## Making -/

/-- The text of a scalar; a mapping can stand for the scalar under its own value. A mapping that
stands for itself has no end. -/
def scalarText : (fuel : Nat) → (id : Nat) → Making Text
  | 0, _ => throw (.scalar .depth)
  | fuel + 1, id => do
    match (← node id).content with
    | .scalar s => return s
    | .sequence _ => refuse
    | .mapping pairs =>
      let graph := (← get).graph
      match pairs.find? fun p => (graph.getD p.1 default).tag = valueTag with
      | some (_, v) => scalarText fuel v
      | none => refuse

/-- Records what has been made of a node. -/
def record (id : Nat) (m : Made) : Making Unit :=
  modify fun b => { b with made := b.made.setIfInBounds id (some m) }

/-- Makes a node unless it has been made: a scalar must have a value, and a collection has its parts
made later. The result says whether the node is a scalar. -/
def make (id : Nat) : Making Bool := do
  match (← get).made.getD id none with
  | some (.value _) => return true
  | some _ => return false
  | none =>
    let n ← node id
    match kindOf n.tag with
    | none => refuse
    | some (.scalar read) =>
      let s ← scalarText ((← get).graph.size + 1) id
      match n.content with
      | .scalar _ => pure ()
      | _ => if n.tag = kindTag "timestamp" then throw (.scalar .notText)
      record id (.value (← read s))
      return true
    | some _ =>
      record id (.list [])
      modify fun b => { b with begun := b.begun.push id }
      return false

/-- Makes the keys and values of a mapping, whose keys must be scalars, after merging. -/
def makePairs (id : Nat) : Making (List (Nat × Nat)) := do
  let _ ← pairsOf id
  flatten ((← get).graph.size + 1) id
  let pairs ← pairsOf id
  for (k, v) in pairs do
    if !(← make k) then refuse
    let _ ← make v
  return pairs

/-- Makes the one pair of a mapping in a sequence of pairs. -/
def makeSingle (id : Nat) : Making (Nat × Nat) := do
  match ← pairsOf id with
  | [(k, v)] =>
    let _ ← make k
    let _ ← make v
    return (k, v)
  | _ => refuse

/-- Makes the parts of a collection that has begun. -/
def makeParts (id : Nat) : Making Made := do
  let n ← node id
  match kindOf n.tag, n.content with
  | some .sequence, .sequence items =>
    for item in items do
      let _ ← make item
    return .list items
  | some .mapping, _ => .mapping <$> makePairs id
  | some .set, _ => .set <$> makePairs id
  | some .pairs, .sequence items => .pairs <$> items.mapM makeSingle
  | _, _ => refuse

/-- Makes the parts of all collections that have begun, from the `i`-th one on. -/
def makeAll : (fuel : Nat) → (i : Nat) → Making Unit
  | 0, _ => return ()
  | fuel + 1, i => do
    match (← get).begun[i]? with
    | none => return ()
    | some id =>
      record id (← makeParts id)
      makeAll fuel (i + 1)

end Making

/-! ## Values -/

/-- Values under keys, with one stored under the key that a node is: keys that are one node, or are
equal, are one key. -/
def storeAt (id : Nat) (key value : Value) :
    List (Nat × Value × Value) → List (Nat × Value × Value)
  | [] => [(id, key, value)]
  | (i, k, v) :: known =>
    if i = id || k.sameKey key then (i, k, value) :: known
    else (i, k, v) :: storeAt id key value known

/-- The value of a node, inside of some collections. -/
def valueOf (made : Array (Option Made)) : (fuel : Nat) → (around : List Nat) → Nat → Value
  | 0, _, _ => .null
  | fuel + 1, around, id =>
    let inner := valueOf made fuel (id :: around)
    let stored (ps : List (Nat × Nat)) : List (Value × Value) :=
      (ps.foldl (fun known (k, v) => storeAt k (inner k) (inner v) known) []).map (·.2)
    match made.getD id none with
    | none => .null
    | some (.value v) => v
    | some m =>
      if around.contains id then .again m.shape
      else
        match m with
        | .value v => v
        | .list items => .list (items.map inner)
        | .mapping ps => .mapping (stored ps)
        | .set ps => .set ((stored ps).map (·.1))
        | .pairs ps => .list (ps.map fun (k, v) => .pair (inner k) (inner v))

/-- The value of a document, or the fault in it that counts. -/
def Graph.value (graph : Graph) : Except Fault Value := do
  let size := graph.size
  let making : Making Unit := do
    let _ ← Making.make 0
    Making.makeAll (size + 1) 0
  let (_, b) ← making.run { graph, made := Array.replicate size none }
  return valueOf b.made (size + 1) [] 0

/-- The value of the document that a stream holds; an empty stream has the value null. -/
def load (stream : Text) : Except Fault Value := do
  match ← Graph.ofStream stream with
  | none => return .null
  | some graph => graph.value

end ClasspathProbe.Yaml
