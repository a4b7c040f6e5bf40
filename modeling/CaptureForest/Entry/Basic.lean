import CaptureForest.Entry.Target
import CaptureForest.Entry.Template
import CaptureForest.Value.Describe
/-!
# Entries

A forest becomes a flat list of entries: a group has only its full key and its name, and a leaf has
what its declaration resolves to. Entries have two forms, a record for the capture engine and a
description for structured output. Both leave out what a leaf does not have.
-/

namespace CaptureForest

/-- What a leaf declaration resolves to. -/
structure Leaf where
  key : String
  name : Value
  type : Option EntryType := none
  target : Option Target := none
  template : Option Template := none
  options : Pairs := []
  passthrough : Pairs := []
deriving BEq, Repr, Inhabited

inductive Entry where
  | group (key : String) (name : Value)
  | leaf (leaf : Leaf)
deriving BEq, Repr, Inhabited

/-- Entries with the nesting of their declarations. -/
inductive EntryTree where
  | group (key : String) (name : Value) (children : List EntryTree)
  | leaf (leaf : Leaf)
deriving Repr, Inhabited

namespace EntryTree

mutual

/-- The entries of a tree, a group before its children. -/
def flatten : EntryTree → List Entry
  | .group key name children => .group key name :: flattenAll children
  | .leaf l => [.leaf l]

def flattenAll : List EntryTree → List Entry
  | [] => []
  | tree :: rest => flatten tree ++ flattenAll rest

end

end EntryTree

/-- The pairs of a list one after another, keys and values alternating. -/
def Pairs.spread (pairs : Pairs) : List Value := pairs.flatMap fun (k, v) => [k, v]

/-- The pairs of a list as a map of descriptions; the names are kept as they are. -/
def Pairs.described (pairs : Pairs) : Value := .map (Pairs.ofList (pairs.map fun (k, v) => (k, v.describe)))

namespace Leaf

/-- The fields of a leaf that come between its name and its options. -/
def middle (leaf : Leaf) : List Value :=
  (leaf.type.map fun t => .str t.word).toList ++ (leaf.target.map Target.record).toList ++
    (leaf.template.map Template.record).toList

def record (leaf : Leaf) : List Value :=
  .str leaf.key :: leaf.name :: leaf.middle ++ leaf.options.spread ++ leaf.passthrough.spread

/-- A named field, unless there is nothing to show. -/
def field (name : String) (value : Option Value) : List (String × Value) :=
  value.toList.map fun v => (name, v)

/-- The described pairs of a list that is not empty. -/
def describedPairs (pairs : Pairs) : Option Value := if pairs.isEmpty then none else some pairs.described

def description (leaf : Leaf) : Value :=
  .record <| [("keys", .str leaf.key), ("name", leaf.name.describe)] ++
    field "type" (leaf.type.map fun t => .str t.word) ++
    field "target" (leaf.target.map fun t => t.record.describe) ++
    field "template" (leaf.template.map fun t => t.record.describe) ++
    field "options" (describedPairs leaf.options) ++
    field "passthrough" (describedPairs leaf.passthrough)

end Leaf

namespace Entry

def isGroup : Entry → Bool
  | .group .. => true
  | .leaf _ => false

def key : Entry → String
  | .group key _ => key
  | .leaf l => l.key

def name : Entry → Value
  | .group _ name => name
  | .leaf l => l.name

/-- The record that the capture engine reads. -/
def record : Entry → List Value
  | .group key name => [.str key, name]
  | .leaf l => l.record

/-- The entry in structured output. -/
def description : Entry → Value
  | .group key name => .record [("keys", .str key), ("name", name.describe), ("group", .bool true)]
  | .leaf l => l.description

end Entry

end CaptureForest
