import CaptureForest.Yaml.Scalar
/-!
# Tags of YAML nodes

A tag tells what a node stands for. It is written out, or follows from the form of the node.
-/

namespace CaptureForest

namespace Yaml

/-- What a node stands for. -/
inductive Tag where
  | null
  | bool
  | int
  | float
  | binary
  | timestamp
  | orderedMap
  | pairs
  | set
  | text
  | list
  | map
  | merge
  | defaultValue
  | unknown
deriving DecidableEq, Repr, Inhabited

namespace Tag

def start : String := "tag:yaml.org,2002:"

def names : List (String × Tag) := [
  ("null", .null), ("bool", .bool), ("int", .int), ("float", .float), ("binary", .binary),
  ("timestamp", .timestamp), ("omap", .orderedMap), ("pairs", .pairs), ("set", .set), ("str", .text),
  ("seq", .list), ("map", .map), ("merge", .merge), ("value", .defaultValue)]

def ofString (s : String) : Tag :=
  if Text.startsWith s start then (names.lookup (s.drop start.length).toString).getD .unknown else .unknown

/-- The tag of a plain scalar, which its form tells. -/
def ofPlain (text : String) : Tag :=
  match scalarKind text with
  | .null => .null
  | .bool => .bool
  | .int => .int
  | .float => .float
  | .timestamp => .timestamp
  | .merge => .merge
  | .defaultValue => .defaultValue
  | .reserved => .unknown
  | .text => .text

/-- The tag of a scalar. The tag `!` makes a quoted scalar tell by its form what it stands for. -/
def ofScalar (given : Option String) (isPlain : Bool) (text : String) : Tag :=
  match given with
  | none => if isPlain then ofPlain text else .text
  | some "!" => ofPlain text
  | some s => ofString s

/-- The tag of a collection. -/
def ofCollection (given : Option String) (usual : Tag) : Tag :=
  match given with
  | none => usual
  | some "!" => usual
  | some s => ofString s

end Tag

end Yaml

end CaptureForest
