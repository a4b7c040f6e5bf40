import CaptureForest.Value.Basic
import CaptureForest.Text.Quoted
import CaptureForest.Number.Decimal
/-!
# Texts of values

The two texts of a value in messages and tables: the plain text, in which a string stands for itself,
and the quoted text, which also tells strings from other values and is used inside of lists and maps.
-/

namespace CaptureForest

namespace Callable

def text : Callable → String
  | .function _ name => s!"<function {name}>"
  | .builtin _ name => s!"<built-in function {name}>"
  | .type home name => if home = "builtins" then s!"<class '{name}'>" else s!"<class '{home}.{name}'>"
  | .object text => text
  | .order name => s!"<Predicate {name.word}>"

/-- How a callable is found again: its home module and its name. -/
def reference? : Callable → Option String
  | .function home name | .builtin home name | .type home name => some (home ++ ":" ++ name)
  | .object _ | .order _ => none

def typeName : Callable → String
  | .function .. => "function"
  | .builtin .. => "builtin_function_or_method"
  | .type .. => "type"
  | .object _ => "CallableOpaque"
  | .order _ => "Predicate"

end Callable

namespace Value

/-- The name of a value's type in messages. -/
def typeName : Value → String
  | .none => "NoneType"
  | .bool _ => "bool"
  | .int _ => "int"
  | .float _ => "float"
  | .str _ => "str"
  | .bytes _ => "bytes"
  | .list _ => "list"
  | .tuple _ => "tuple"
  | .map _ => "dict"
  | .node .. => "Declaration"
  | .callable c => c.typeName
  | .path _ => "PurePosixPath"
  | .entryType _ => "EntryType"
  | .phase _ => "HookPhase"
  | .foreign typeName _ _ => typeName

def boolText (b : Bool) : String := if b then "True" else "False"

def separated (parts : List String) : String := String.intercalate ", " parts

/-- Text between braces. -/
def braced (s : String) : String := "\x7b" ++ s ++ "\x7d"

mutual

/-- The text of a value that shows its kind: strings are quoted. -/
def quoted : Value → String
  | .none => "None"
  | .bool b => boolText b
  | .int n => toString n
  | .float x => x.text
  | .str s => Text.quote s
  | .bytes octets => Text.quoteBytes octets
  | .list items => "[" ++ separated (quotedItems items) ++ "]"
  | .tuple [item] => "(" ++ quoted item ++ ",)"
  | .tuple items => "(" ++ separated (quotedItems items) ++ ")"
  | .map pairs => braced (separated (quotedPairs pairs))
  | .node name attributes =>
    "Declaration(name=" ++ quoted name ++ ", attributes=" ++ braced (separated (quotedPairs attributes)) ++ ")"
  | .callable c => c.text
  | .path location => "PurePosixPath(" ++ Text.quote location ++ ")"
  | .entryType t => s!"<EntryType.{t.label}: '{t.word}'>"
  | .phase p => s!"<HookPhase.{p.label}: '{p.word}'>"
  | .foreign _ _ quoted => quoted

def quotedItems : List Value → List String
  | [] => []
  | item :: rest => quoted item :: quotedItems rest

def quotedPairs : List (Value × Value) → List String
  | [] => []
  | (k, v) :: rest => (quoted k ++ ": " ++ quoted v) :: quotedPairs rest

end

/-- The text of a value in messages: strings, paths and foreign values stand for themselves. -/
def plain : Value → String
  | .str s => s
  | .path location => location
  | .entryType t => "EntryType." ++ t.label
  | .phase p => "HookPhase." ++ p.label
  | .foreign _ text _ => text
  | v => v.quoted

end Value

end CaptureForest
