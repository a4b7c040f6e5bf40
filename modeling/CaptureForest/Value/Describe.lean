import CaptureForest.Pairs
import CaptureForest.Value.Text
/-!
# Descriptions of values

The form in which values appear in structured output: only texts, numbers, truth values, the absent
value, lists, and maps with textual keys. A callable is described by its reference.
-/

namespace CaptureForest

namespace Callable

/-- The reference of a callable, or its text if it has none. -/
def description (c : Callable) : String := c.reference?.getD c.text

end Callable

namespace Value

mutual

/-- The description of a value. Keys of maps become texts; of two keys with one text the later value
is kept, at the place of the earlier. -/
def describe : Value → Value
  | .list items => .list (describeItems items)
  | .tuple items => .list (describeItems items)
  | .map pairs => .map (Pairs.ofList (describePairs pairs))
  | .callable c => .str c.description
  | .none => .none
  | .bool b => .bool b
  | .int n => .int n
  | .float x => .float x
  | .str s => .str s
  | .entryType t => .entryType t
  | .phase p => .phase p
  | v => .str v.plain

def describeItems : List Value → List Value
  | [] => []
  | item :: rest => describe item :: describeItems rest

def describePairs : List (Value × Value) → List (Value × Value)
  | [] => []
  | (k, v) :: rest => (.str k.plain, describe v) :: describePairs rest

end

end Value

end CaptureForest
