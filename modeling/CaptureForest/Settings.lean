import CaptureForest.Choice
import CaptureForest.Declaration.Order
/-!
# Settings

The settings of a compilation: the entry type of leaves that declare none, and the orders by which
forests and lists of children are sorted.
-/

namespace CaptureForest

/-- What a compilation needs to know: a default type, the questions to sort by, and how to sort. -/
structure Plan where
  defaultType : EntryType := .entry
  sortChildren : Option Less := none
  sortForest : Option Less := none
  sorter : Sorter := StableSort.sorter

structure Settings where
  defaultType : EntryType := .entry
  sortChildren : Option Callable := none
  sortForest : Option Callable := none
deriving BEq, Repr, Inhabited

namespace Settings

/-- The names of the settings. -/
def names : List String := ["default_type", "sort_children", "sort_forest"]

def plan (s : Settings) : Plan where
  defaultType := s.defaultType
  sortChildren := s.sortChildren.map Callable.less
  sortForest := s.sortForest.map Callable.less

/-- Reads the setting for a sort order: something to call, or nothing. -/
def readOrder (name : String) : Value → Except Fault (Option Callable)
  | .none => .ok none
  | .callable c => .ok (some c)
  | v => .error <| .capture <|
      .configuration (name ++ " must be a callable predicate or None, got " ++ v.typeName) name

/-- Reads the setting for the default type. -/
def readType (value : Value) : Except Fault EntryType :=
  match EntryType.ofValue value with
  | .ok t => .ok t
  | .error e => .error (.capture (.configuration e.text "default_type"))

/-- Builds settings from values, the default type first. -/
def ofValues (defaultType sortChildren sortForest : Value) : Except Fault Settings := do
  let defaultType ← readType defaultType
  let sortChildren ← readOrder "sort_children" sortChildren
  let sortForest ← readOrder "sort_forest" sortForest
  return { defaultType, sortChildren, sortForest }

def orderValue : Option Callable → Value
  | some c => .callable c
  | none => .none

/-- The settings as named values. -/
def toFields (s : Settings) : List (String × Value) :=
  [("default_type", .entryType s.defaultType), ("sort_children", orderValue s.sortChildren),
    ("sort_forest", orderValue s.sortForest)]

/-- The value that changes give a setting, or else its present value. -/
def changed (changes : Pairs) (name : String) (present : Value) : Value :=
  (Pairs.lookup? name changes).getD present

/-- Whether all changes are to known settings. -/
def knows (changes : Pairs) : Bool := (Pairs.keys changes).all (·.isAmong names)

/-- Builds settings from named values; what is not named has its default. -/
def ofFields (fields : Pairs) : Except Fault Settings :=
  if knows fields then
    ofValues (changed fields "default_type" (.entryType .entry)) (changed fields "sort_children" .none)
      (changed fields "sort_forest" .none)
  else .error .wrongType

/-- The settings with the named ones replaced. -/
def replace (s : Settings) (changes : Pairs) : Except Fault Settings :=
  ofValues (changed changes "default_type" (.entryType s.defaultType))
    (changed changes "sort_children" (orderValue s.sortChildren))
    (changed changes "sort_forest" (orderValue s.sortForest))

end Settings

end CaptureForest
