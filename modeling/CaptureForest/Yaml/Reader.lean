import CaptureForest.Load
import CaptureForest.Yaml.Document
import CaptureForest.Yaml.ScalarValue
/-!
# Reading YAML

Texts as values. The nodes of a document get their values level by level: a collection is filled only
after all values beside it were begun, and a map merges others only when it is filled. So of several
faults the one nearest to the root is told, and what a node is worth can depend on what was filled before.

This is one reader of the kind that loading asks for. It covers the notation as declaration files use it,
and does not word what is wrong with a malformed text.
-/

namespace CaptureForest

namespace Yaml

/-- What stands for a node as a part of others: its value, or itself if it is a collection. -/
inductive Part where
  | value (v : Value)
  | node (id : NodeId)
deriving Repr, Inhabited

/-- What a collection is filled with. -/
inductive Filling where
  | list (parts : List Part)
  | pairs (pairs : List (Part × Part))
  | map (pairs : List (Value × Part))
  | set (keys : List Value)
deriving Repr, Inhabited

/-- The values that were begun so far, and the collections that are not filled yet, last first. -/
structure Builder where
  graph : Graph
  mergeLimit : Nat
  parts : Array (Option Part)
  fillings : Array (Option Filling)
  waiting : List NodeId := []

abbrev Building := StateT Builder (Except ReadFault)

namespace Builder

def ofGraph (g : Graph) : Builder where
  graph := g
  mergeLimit := g.mergeCount
  parts := Array.replicate g.nodes.size none
  fillings := Array.replicate g.nodes.size none

/-! ### Scalars -/

/-- The text of a node that stands for a scalar: its own one, or that of the default value in a map. -/
def scalarText (g : Graph) : Nat → NodeId → Except ReadFault String
  | 0, _ => ScalarValue.failure .recursion
  | fuel + 1, id =>
    match g.content id with
    | .scalar text => .ok text
    | .map pairs =>
      match pairs.find? fun p => g.tag p.1 == .defaultValue with
      | some (_, value) => scalarText g fuel value
      | none => .error .malformed
    | .list _ => .error .malformed

def isScalar : Content → Bool
  | .scalar _ => true
  | _ => false

/-- The value of a node that stands for a scalar. A moment has to be written out. -/
def scalarValue (g : Graph) (id : NodeId) : Except ReadFault Value := do
  let text ← scalarText g (g.nodes.size + 1) id
  match g.tag id with
  | .null => return .none
  | .bool => return .bool (← ScalarValue.truth text)
  | .int => return .int (← ScalarValue.integer text)
  | .float => return .float (← ScalarValue.float text)
  | .timestamp =>
    if isScalar (g.content id) then ScalarValue.moment text else ScalarValue.failure .type
  | .binary => ScalarValue.bytes text
  | .text => return .str text
  | _ => .error .malformed

/-! ### Collections -/

def isCollection : Tag → Bool
  | .list | .map | .set | .orderedMap | .pairs => true
  | _ => false

def isKnown : Tag → Bool
  | .merge | .defaultValue | .unknown => false
  | _ => true

/-- Begins the value of a node, unless that was done before. -/
def build (id : NodeId) : Building Part := do
  let b ← get
  match (b.parts[id]?).join with
  | some part => return part
  | none =>
    let tag := b.graph.tag id
    if !isKnown tag then throw .malformed
    let part ← if isCollection tag then pure (.node id) else .value <$> scalarValue b.graph id
    let waiting := if isCollection tag then id :: b.waiting else b.waiting
    set { b with parts := b.parts.setIfInBounds id (some part), waiting }
    return part

/-- Begins the value of a key, which must not be a collection. -/
def buildKey (id : NodeId) : Building Value := do
  match ← build id with
  | .value v => return v
  | .node _ => throw .malformed

/-- Begins the values of a map, which merges others before. -/
def buildPairs (id : NodeId) : Building (List (Value × Part)) := do
  let b ← get
  match b.graph.content id with
  | .map _ =>
    let graph ← b.graph.merge b.mergeLimit id
    set { b with graph }
    (graph.pairs id).mapM fun (k, v) => do
      let key ← buildKey k
      return (key, ← build v)
  | _ => throw .malformed

/-- Begins the values of a map of one pair. -/
def buildPair (id : NodeId) : Building (Part × Part) := do
  match (← get).graph.content id with
  | .map [(k, v)] =>
    let key ← build k
    return (key, ← build v)
  | _ => throw .malformed

/-- What a collection is filled with, by its tag. -/
def filling (id : NodeId) : Building Filling := do
  let g := (← get).graph
  match g.tag id, g.content id with
  | .list, .list items => .list <$> items.mapM build
  | .orderedMap, .list items | .pairs, .list items => .pairs <$> items.mapM buildPair
  | .map, _ => .map <$> buildPairs id
  | .set, _ => do
    let pairs ← buildPairs id
    return .set (pairs.map (·.1))
  | _, _ => throw .malformed

def fill (id : NodeId) : Building Unit := do
  let filling ← filling id
  modify fun b => { b with fillings := b.fillings.setIfInBounds id (some filling) }

/-- Fills the collections that wait, in the order in which they were begun, then those that were begun
meanwhile, and so on. -/
def fillAll : Nat → Building Unit
  | 0 => return ()
  | fuel + 1 => do
    let level := (← get).waiting.reverse
    if level.isEmpty then return ()
    modify fun b => { b with waiting := [] }
    level.forM fill
    fillAll fuel

/-! ### Values -/

def isNaN : Value → Bool
  | .float .nan => true
  | _ => false

/-- Adds a pair to a map. What is not a number is one key. -/
def insertPair (pairs : Pairs) (pair : Value × Value) : Pairs :=
  if isNaN pair.1 && pairs.any (isNaN ·.1) then
    pairs.map fun (k, v) => (k, if isNaN k then pair.2 else v)
  else Pairs.insert pair.1 pair.2 pairs

def mapOf (pairs : List (Value × Value)) : Value := .map (pairs.foldl insertPair [])

def setText (keys : List Value) : String :=
  if keys.isEmpty then "set()" else Value.braced (Value.separated (keys.map Value.quoted))

def setOf (keys : List Value) : Value :=
  let text := setText (Pairs.keys (Pairs.ofList (keys.map fun k => (k, .none))))
  .foreign "set" text text

/-- The value that a part comes to. On the way down from the root no node is met twice, unless a
collection is a part of itself, which then has no value. -/
def valueOf (b : Builder) : Nat → Part → Except ReadFault Value
  | _, .value v => return v
  | 0, .node _ => ScalarValue.failure .recursion
  | fuel + 1, .node id =>
    match (b.fillings[id]?).join with
    | some (.list parts) => return .list (← parts.mapM (valueOf b fuel))
    | some (.pairs pairs) => do
      let items ← pairs.mapM fun (k, v) => do
        return .tuple [← valueOf b fuel k, ← valueOf b fuel v]
      return .list items
    | some (.map pairs) => do
      let pairs ← pairs.mapM fun (k, v) => return (k, ← valueOf b fuel v)
      return mapOf pairs
    | some (.set keys) => return setOf keys
    | none => return .none

/-- The value of a node. -/
def run (id : NodeId) (g : Graph) : Except ReadFault Value := do
  let (part, b) ← (do
    let part ← build id
    fillAll (g.nodes.size + 1)
    return part : Building Part).run (ofGraph g)
  b.valueOf (g.nodes.size + 1) part

end Builder

/-- Characters that texts may hold. -/
def isAllowed (c : Char) : Bool :=
  c == '\t' || c == '\n' || c == '\r' || c == '\x85' || (' ' ≤ c && c ≤ '~') || '\u00a0' ≤ c

/-- The value of a text. An empty text stands for no value. -/
def read (text : String) : Except ReadFault Value :=
  if text.toList.any fun c => !isAllowed c || c == '\ufffe' || c == '\uffff' then .error .malformed
  else
    match Document.ofTokens (tokens text) with
    | .error fault => .error fault
    | .ok none => .ok .none
    | .ok (some (id, graph)) => Builder.run id graph

/-- Reads a file. The bytes are taken for a text before anything is read. -/
def reader : Load.YamlReader := fun octets =>
  match Load.decode? octets with
  | none => .error (.host { kind := .unicodeDecode })
  | some text =>
    match read text with
    | .ok v => .ok v
    | .error .malformed =>
        .error (.malformed { text := "the text is not well formed", fromMarkup := true })
    | .error (.host e) => .error (.host e)

end Yaml

end CaptureForest
