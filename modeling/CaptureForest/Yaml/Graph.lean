import CaptureForest.Yaml.Cursor
import CaptureForest.Yaml.Tag
/-!
# Graphs of YAML documents

The nodes of a document, each of which is known by its number. A node that has a name can be a part of
several nodes, and of itself. A map may ask to merge others: it takes over their pairs, which come before
its own ones, and from then on is a map like any other.
-/

namespace CaptureForest

namespace Yaml

/-- The number of a node in its graph. -/
abbrev NodeId := Nat

/-- What a node is made of: a text, or other nodes. -/
inductive Content where
  | scalar (text : String)
  | list (items : List NodeId)
  | map (pairs : List (NodeId × NodeId))
deriving DecidableEq, Repr, Inhabited

structure Node where
  tag : Tag
  content : Content
deriving DecidableEq, Repr, Inhabited

structure Graph where
  nodes : Array Node := #[]
deriving Repr, Inhabited

namespace Graph

def node (g : Graph) (id : NodeId) : Node := (g.nodes[id]?).getD default

def tag (g : Graph) (id : NodeId) : Tag := (g.node id).tag

def content (g : Graph) (id : NodeId) : Content := (g.node id).content

/-- The pairs of a map; other nodes have none. -/
def pairs (g : Graph) (id : NodeId) : List (NodeId × NodeId) :=
  match g.content id with
  | .map pairs => pairs
  | _ => []

/-- Adds a node, which gets the next number. -/
def add (n : Node) (g : Graph) : NodeId × Graph := (g.nodes.size, ⟨g.nodes.push n⟩)

def setContent (id : NodeId) (content : Content) (g : Graph) : Graph :=
  ⟨g.nodes.modify id fun n => { n with content }⟩

def setTag (id : NodeId) (tag : Tag) (g : Graph) : Graph := ⟨g.nodes.modify id fun n => { n with tag }⟩

/-! ### Merging -/

def isMergeKey (g : Graph) (id : NodeId) : Bool := g.tag id == .merge

/-- A key that is spelled as a default value is just a text. -/
def settleKey (g : Graph) (id : NodeId) : Graph :=
  if g.tag id == .defaultValue then g.setTag id .text else g

/-- How many pairs in the graph ask to merge. -/
def mergeCount (g : Graph) : Nat :=
  g.nodes.foldl (fun n node =>
    match node.content with
    | .map pairs => n + (pairs.filter fun p => g.isMergeKey p.1).length
    | _ => n) 0

/-- Merges what a map asks to merge in its pairs from a place on. The first of several maps that are
merged together counts most, so its pairs come last. Every merge uses up a pair, which bounds how often
maps can ask. -/
def mergeFrom : Nat → NodeId → Nat → List (NodeId × NodeId) → Graph → Except ReadFault Graph
  | 0, _, _, _, _ => .error .malformed
  | fuel + 1, id, place, taken, g => do
    let own := g.pairs id
    let settled := (own.drop place).takeWhile (!g.isMergeKey ·.1)
    let g := settled.foldl (fun g p => g.settleKey p.1) g
    let place := place + settled.length
    match own[place]? with
    | none => return g.setContent id (.map (taken ++ own))
    | some (_, source) =>
      let g := g.setContent id (.map (own.eraseIdx place))
      let mergeMap (source : NodeId) (g : Graph) : Except ReadFault (List (NodeId × NodeId) × Graph) :=
        match g.content source with
        | .map _ => (mergeFrom fuel source 0 [] g).map fun g => (g.pairs source, g)
        | _ => .error .malformed
      let (found, g) ← match g.content source with
        | .list items => items.foldlM (fun (found, g) item => do
            let (pairs, g) ← mergeMap item g
            return (pairs ++ found, g)) ([], g)
        | _ => mergeMap source g
      mergeFrom fuel id place (taken ++ found) g

/-- Merges all that a map asks to merge. At most the given number of pairs asks for it. -/
def merge (limit : Nat) (id : NodeId) (g : Graph) : Except ReadFault Graph :=
  mergeFrom (limit + 2) id 0 [] g

end Graph

end Yaml

end CaptureForest
