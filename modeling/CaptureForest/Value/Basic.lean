import CaptureForest.EntryType
import CaptureForest.HookPhase
import CaptureForest.SiblingOrder
import CaptureForest.Number.Binary64
/-!
# Values

What declarations and settings are made of: scalars, sequences, maps in insertion order,
declarations themselves, and things that can be called. Attributes of declarations are not restricted
to any kind of value, so everything that reads them works on this type.

Values are finite trees: no collection is a part of itself. How deeply values are nested and how many
digits a number has is limited by the process that a program runs in, and in no program that is modelled
here.
-/

namespace CaptureForest

/-- Something that can be called. All but plain objects have a name in a home module. -/
inductive Callable where
  | function (home name : String)
  | builtin (home name : String)
  | type (home name : String)
  | object (text : String)
  | order (name : SiblingOrder)
deriving DecidableEq, Repr, Inhabited

/-- A value. Maps and the attributes of a declaration keep the order in which their keys were first
given. A foreign value is known only by its type's name and its two texts, plain and quoted. -/
inductive Value where
  | none
  | bool (b : Bool)
  | int (n : Int)
  | float (x : Binary64)
  | str (s : String)
  | bytes (octets : List UInt8)
  | list (items : List Value)
  | tuple (items : List Value)
  | map (pairs : List (Value × Value))
  | node (name : Value) (attributes : List (Value × Value))
  | callable (c : Callable)
  | path (location : String)
  | entryType (t : EntryType)
  | phase (p : HookPhase)
  | foreign (typeName text quoted : String)
deriving BEq, Repr, Inhabited

/-- Pairs in insertion order: the content of a map, the attributes of a declaration, the fields of a
log record. -/
abbrev Pairs := List (Value × Value)

namespace Value

/-- A value is set unless it is absent or false. Zero and empty texts and lists are set. -/
def isSet : Value → Bool
  | .none => false
  | .bool b => b
  | _ => true

def isAbsent : Value → Bool
  | .none => true
  | _ => false

/-- The text of a value that counts as a text; the members of the two word types do. -/
def text? : Value → Option String
  | .str s => some s
  | .entryType t => some t.word
  | .phase p => some p.word
  | _ => .none

def isText (v : Value) : Bool := v.text?.isSome

/-- The items of a list or a tuple. -/
def items? : Value → Option (List Value)
  | .list items => some items
  | .tuple items => some items
  | _ => .none

/-- What running through a value yields: the items of a sequence, the characters of a text, the keys of
a map, the numbers of a byte string. -/
def elements? : Value → Option (List Value)
  | .list items => some items
  | .tuple items => some items
  | .map pairs => some (pairs.map (·.1))
  | .bytes octets => some (octets.map fun b => .int b.toNat)
  | v => v.text?.map fun s => s.toList.map fun c => .str (String.singleton c)

def isCallable : Value → Bool
  | .callable _ => true
  | _ => false

/-- A value counts as true unless it is absent, false, zero or empty. -/
def isTruthy : Value → Bool
  | .none => false
  | .bool b => b
  | .int n => n != 0
  | .float x => !x.isZero
  | .str s => s != ""
  | .bytes octets => !octets.isEmpty
  | .list items => !items.isEmpty
  | .tuple items => !items.isEmpty
  | .map pairs => !pairs.isEmpty
  | .foreign typeName text _ => typeName != "set" || text != "set()"
  | _ => true

/-- A text, or a sequence of texts only. -/
def isTextOrTexts (v : Value) : Bool :=
  v.isText || match v.items? with
    | some items => items.all isText
    | .none => false

/-- The texts of a list of strings. -/
def ofStrings (texts : List String) : Value := .list (texts.map .str)

def ofOption : Option Value → Value
  | some v => v
  | .none => .none

end Value

end CaptureForest
