import CaptureForest.Yaml.Graph
import CaptureForest.Yaml.Token
/-!
# Documents of YAML texts

The structure of a text as a graph of scalars, lists and maps. A text holds one document at most. A part
that was named by an anchor can be repeated by an alias, also inside of itself.
-/

namespace CaptureForest

namespace Yaml

namespace Document

/-- What is left of the tokens, what the handles of tags stand for, the nodes that were read and their
names. -/
structure Source where
  tokens : List Token
  handles : List (String × String) := []
  graph : Graph := {}
  anchors : List (String × NodeId) := []

abbrev Reading := Except ReadFault

def usualHandles : List (String × String) := [("!", "!"), ("!!", Tag.start)]

namespace Source

def peek (s : Source) : Token := s.tokens.headD .textEnd

def next (s : Source) : Source := { s with tokens := s.tokens.tail }

/-- Refuses the token that comes next. -/
def refuse {α : Type} (s : Source) : Except ReadFault α :=
  match s.peek with
  | .broken fault => .error fault
  | _ => .error .malformed

/-- Whether one of the given tokens comes next. A text that is broken here has no next token. -/
def isAt (ts : List Token) (s : Source) : Except ReadFault Bool :=
  match s.peek with
  | .broken fault => .error fault
  | t => .ok (ts.contains t)

def expect (t : Token) (s : Source) : Except ReadFault Source :=
  if s.peek == t then .ok s.next else s.refuse

/-- Adds a node, which may have a name; no two nodes of a document have one name. -/
def add (anchor : Option String) (node : Node) (s : Source) : Except ReadFault (NodeId × Source) :=
  let (id, graph) := s.graph.add node
  match anchor with
  | none => .ok (id, { s with graph })
  | some n =>
    if s.anchors.any (·.1 == n) then .error .malformed
    else .ok (id, { s with graph, anchors := (n, id) :: s.anchors })

/-- Adds the node of a value that was left out. -/
def addAbsent (s : Source) : NodeId × Source :=
  let (id, graph) := s.graph.add ⟨.null, .scalar ""⟩
  (id, { s with graph })

/-- Adds a map of one pair. -/
def addPair (pair : NodeId × NodeId) (s : Source) : NodeId × Source :=
  let (id, graph) := s.graph.add ⟨.map, .map [pair]⟩
  (id, { s with graph })

/-- Gives a collection its parts. -/
def complete (id : NodeId) (content : Content) (s : Source) : NodeId × Source :=
  (id, { s with graph := s.graph.setContent id content })

/-- The tag that a token spells out. -/
def tagName (s : Source) (handle : Option String) (suffix : String) : Except ReadFault String :=
  match handle with
  | none => .ok suffix
  | some h =>
    match s.handles.lookup h with
    | some start => .ok (start ++ suffix)
    | none => .error .malformed

def anchor? (s : Source) : Except ReadFault (Option String × Source) :=
  match s.peek with
  | .broken fault => .error fault
  | .anchor n => .ok (some n, s.next)
  | _ => .ok (none, s)

/-- The tag before a node, and the anchor after it unless there was one before. -/
def tagThen (anchor : Option String) (s : Source) :
    Except ReadFault (Option String × Option String × Source) :=
  match s.peek with
  | .broken fault => .error fault
  | .tag handle suffix => do
    let (anchor, s) ← if anchor.isSome then pure (anchor, s.next) else s.next.anchor?
    let tag ← s.tagName handle suffix
    return (anchor, some tag, s)
  | _ => .ok (anchor, none, s)

/-- The anchor and the tag before a node, in either order. -/
def properties (s : Source) : Except ReadFault (Option String × Option String × Source) := do
  let (anchor, s) ← s.anchor?
  s.tagThen anchor

end Source

mutual

/-- Reads a node. In a block, lists and maps without brackets can begin; as a part of a pair, a list can
stand in the column of its key. A collection has its number before its parts have theirs. -/
def read (inBlock isFlush : Bool) : Nat → Source → Reading (NodeId × Source)
  | 0, _ => .error .malformed
  | fuel + 1, s =>
    match s.peek with
    | .alias n =>
      match s.anchors.lookup n with
      | some id => .ok (id, s.next)
      | none => .error .malformed
    | _ => do
      let (anchor, tag, s) ← s.properties
      let list : Node := ⟨Tag.ofCollection tag .list, .list []⟩
      let map : Node := ⟨Tag.ofCollection tag .map, .map []⟩
      let items (read : Source → Reading (List NodeId × Source)) (s : Source) :
          Reading (NodeId × Source) := do
        let (id, s) ← s.add anchor list
        let (items, s) ← read s
        return s.complete id (.list items)
      let pairs (read : Source → Reading (List (NodeId × NodeId) × Source)) (s : Source) :
          Reading (NodeId × Source) := do
        let (id, s) ← s.add anchor map
        let (pairs, s) ← read s
        return s.complete id (.map pairs)
      match s.peek with
      | .broken fault => .error fault
      | .scalar text isPlain => s.next.add anchor ⟨Tag.ofScalar tag isPlain text, .scalar text⟩
      | .flowListStart => items (flowItems true fuel) s.next
      | .flowMapStart => pairs (flowPairs true fuel) s.next
      | t =>
        if isFlush && t == .blockEntry then items (flushItems fuel) s
        else if inBlock && t == .blockListStart then items (blockItems fuel) s.next
        else if inBlock && t == .blockMapStart then pairs (blockPairs fuel) s.next
        else if anchor.isSome || tag.isSome then s.add anchor ⟨Tag.ofScalar tag true "", .scalar ""⟩
        else s.refuse

/-- Reads a node that may be left out before one of the given tokens. -/
def readUnless (ends : List Token) (inBlock isFlush : Bool) : Nat → Source → Reading (NodeId × Source)
  | 0, _ => .error .malformed
  | fuel + 1, s => do
    if ← s.isAt ends then return s.addAbsent else read inBlock isFlush fuel s

/-- Reads the node after a sign, which may be missing together with its node. -/
def readAfter (sign : Token) (ends : List Token) (inBlock : Bool) :
    Nat → Source → Reading (NodeId × Source)
  | 0, _ => .error .malformed
  | fuel + 1, s => do
    if ← s.isAt [sign] then readUnless ends inBlock inBlock fuel s.next else return s.addAbsent

def blockItems : Nat → Source → Reading (List NodeId × Source)
  | 0, _ => .error .malformed
  | fuel + 1, s => do
    if ← s.isAt [.blockEntry] then
      let (first, s) ← readUnless [.blockEntry, .blockEnd] true false fuel s.next
      let (others, s) ← blockItems fuel s
      return (first :: others, s)
    else return ([], ← s.expect .blockEnd)

/-- Reads the items of a list in the column of its key, which no token closes. -/
def flushItems : Nat → Source → Reading (List NodeId × Source)
  | 0, _ => .error .malformed
  | fuel + 1, s => do
    if ← s.isAt [.blockEntry] then
      let (first, s) ← readUnless [.blockEntry, .key, .value, .blockEnd] true false fuel s.next
      let (others, s) ← flushItems fuel s
      return (first :: others, s)
    else return ([], s)

def blockPairs : Nat → Source → Reading (List (NodeId × NodeId) × Source)
  | 0, _ => .error .malformed
  | fuel + 1, s => do
    let ends : List Token := [.key, .value, .blockEnd]
    if ← s.isAt [.key] then
      let (key, s) ← readUnless ends true true fuel s.next
      let (value, s) ← readAfter .value ends true fuel s
      let (others, s) ← blockPairs fuel s
      return ((key, value) :: others, s)
    else return ([], ← s.expect .blockEnd)

/-- Reads the key and the value of a pair inside of brackets. -/
def flowPair (closing : Token) : Nat → Source → Reading ((NodeId × NodeId) × Source)
  | 0, _ => .error .malformed
  | fuel + 1, s => do
    let (key, s) ← readUnless [.value, .flowEntry, closing] false false fuel s
    let (value, s) ← readAfter .value [.flowEntry, closing] false fuel s
    return ((key, value), s)

def flowItems (isFirst : Bool) : Nat → Source → Reading (List NodeId × Source)
  | 0, _ => .error .malformed
  | fuel + 1, s => do
    if ← s.isAt [.flowListEnd] then return ([], s.next)
    let s ← if isFirst then pure s else s.expect .flowEntry
    if ← s.isAt [.flowListEnd] then return ([], s.next)
    let (first, s) ←
      if ← s.isAt [.key] then do
        let (pair, s) ← flowPair .flowListEnd fuel s.next
        pure (s.addPair pair)
      else read false false fuel s
    let (others, s) ← flowItems false fuel s
    return (first :: others, s)

def flowPairs (isFirst : Bool) : Nat → Source → Reading (List (NodeId × NodeId) × Source)
  | 0, _ => .error .malformed
  | fuel + 1, s => do
    if ← s.isAt [.flowMapEnd] then return ([], s.next)
    let s ← if isFirst then pure s else s.expect .flowEntry
    if ← s.isAt [.flowMapEnd] then return ([], s.next)
    let (first, s) ←
      if ← s.isAt [.key] then flowPair .flowMapEnd fuel s.next
      else do
        let (key, s) ← read false false fuel s
        let (value, s) := s.addAbsent
        pure ((key, value), s)
    let (others, s) ← flowPairs false fuel s
    return (first :: others, s)

end

/-- Reads the directives before a document: at most one version, which is 1, and handles for tags. -/
def directives :
    Bool → List (String × String) → List Token → Reading (List (String × String) × List Token)
  | hasVersion, handles, .version major :: rest =>
    if hasVersion || major ≠ 1 then .error .malformed else directives true handles rest
  | hasVersion, handles, .tagHandle handle start :: rest =>
    if handles.any (·.1 == handle) then .error .malformed
    else directives hasVersion ((handle, start) :: handles) rest
  | hasVersion, handles, .otherDirective :: rest => directives hasVersion handles rest
  | _, handles, ts => .ok (handles, ts)

def beginsDocument : Token → Bool
  | .version _ | .tagHandle .. | .otherDirective | .documentStart => true
  | _ => false

/-- Reads a document that has a mark at its beginning. -/
def markedDocument (fuel : Nat) (ts : List Token) : Reading (NodeId × Source) := do
  let (handles, ts) ← directives false [] ts
  let s ← Source.expect .documentStart { tokens := ts, handles := handles ++ usualHandles }
  if beginsDocument s.peek || s.peek == .documentEnd || s.peek == .textEnd then return s.addAbsent
  else read true false fuel s

/-- The graph of a text that holds at most one document, and its topmost node. -/
def ofTokens (ts : List Token) : Except ReadFault (Option (NodeId × Graph)) := do
  let fuel := 3 * ts.length + 3
  let source : Source := { tokens := ts, handles := usualHandles }
  if source.peek == .textEnd then return none
  let (id, s) ←
    if beginsDocument source.peek then markedDocument fuel ts else read true false fuel source
  let s : Source := { s with tokens := s.tokens.dropWhile (· == Token.documentEnd) }
  if s.peek == .textEnd then return some (id, s.graph) else s.refuse

end Document

end Yaml

end CaptureForest
