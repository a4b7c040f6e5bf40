import CaptureForest.Keyword
import CaptureForest.Fault.Basic
import CaptureForest.Text.Layout
/-!
# References to callables

A callable slot of a declaration file may name what it calls as `module:name`. The modules that can be
named are given as a catalog. References are looked up in the callable slots of declarations and of
their children, and nowhere else.
-/

namespace CaptureForest

/-- A named thing with the things that are found under it. -/
inductive Member where
  | mk (name : String) (value : Value) (members : List Member)
deriving Repr, Inhabited

structure Module where
  name : String
  members : List Member
deriving Repr, Inhabited

/-- The modules that references can name. -/
abbrev Catalog := List Module

namespace Member

def name : Member → String
  | .mk name _ _ => name

def value : Member → Value
  | .mk _ value _ => value

def members : Member → List Member
  | .mk _ _ members => members

end Member

namespace Reference

/-- The names of a module and of all modules that it lies in, outermost first. -/
def enclosing (segments : List String) : List String :=
  (List.range segments.length).map fun n => String.intercalate "." (segments.take (n + 1))

/-- Why a module is not found: its outermost part is unknown, or a known part has no parts. -/
def missingModule (catalog : Catalog) (name : String) : String :=
  let known (n : String) : Bool := catalog.any (·.name == n)
  match (enclosing (Text.splitOnChar '.' name)).dropWhile known with
  | [] => ""
  | missing :: _ =>
    let parent := String.ofList (missing.toList.reverse.dropWhile (· != '.')).reverse.dropLast
    "No module named " ++ Text.quote missing ++
      (if known parent then "; " ++ Text.quote parent ++ " is not a package" else "")

/-- How a value without the wanted name is spoken of. -/
def missingName (owner : Value) (name : String) : String :=
  let who :=
    match owner with
    | .callable (.type _ type) => "type object '" ++ type ++ "'"
    | v => "'" ++ v.typeName ++ "' object"
  who ++ " has no attribute '" ++ name ++ "'"

/-- Follows names from one member to the next. -/
def follow (owner : Member) : List String → Except String Value
  | [] => .ok owner.value
  | name :: rest =>
    match owner.members.find? (·.name == name) with
    | some member => follow member rest
    | none => .error (missingName owner.value name)

/-- Looks names up in a module. -/
def lookup (m : Module) : List String → Except String Value
  | [] => .error ""
  | name :: rest =>
    match m.members.find? (·.name == name) with
    | some member => follow member rest
    | none => .error ("module '" ++ m.name ++ "' has no attribute '" ++ name ++ "'")

def unresolved (reference : Value) (reason : String) : Fault :=
  .capture <| .load ("Cannot resolve callable reference " ++ reference.quoted ++ ": " ++ reason) none
    (some { text := reason })

/-- The thing that the text of a reference names. A relative module name is refused outright. -/
def resolveText (catalog : Catalog) (reference : Value) (text : String) : Except Fault Value :=
  let (moduleName, path) := Text.cutAt ':' text
  if moduleName = "" then .error (unresolved reference "Empty module name")
  else if Text.startsWith moduleName "." then .error .wrongType
  else
    match catalog.find? (·.name == moduleName) with
    | none => .error (unresolved reference (missingModule catalog moduleName))
    | some m =>
      match lookup m (Text.splitOnChar '.' path) with
      | .ok v => .ok v
      | .error reason => .error (unresolved reference reason)

/-- The thing that a reference names. -/
def resolve (catalog : Catalog) (reference : String) : Except Fault Value :=
  resolveText catalog (.str reference) reference

/-- Resolves a value that is meant to be a reference. Bytes and the type of texts can be cut apart as
texts can, but not at a colon. -/
def resolveValue (catalog : Catalog) (v : Value) : Except Fault Value :=
  match v with
  | .bytes _ | .callable (.type "builtins" "str") => .error .wrongType
  | _ =>
    match v.text? with
    | some text => resolveText catalog v text
    | none => .error (.ofKind .missingAttribute)

def isReference (v : Value) : Bool := v.text?.any fun s => s.toList.contains ':'

mutual

/-- Resolves the references in the declarations of a document, and leaves all else as it is. -/
def resolveIn (catalog : Catalog) : Value → Except Fault Value
  | .list items =>
    match resolveItems catalog items with
    | .ok items => .ok (.list items)
    | .error e => .error e
  | .map pairs =>
    match resolvePairs catalog pairs with
    | .ok pairs => .ok (.map pairs)
    | .error e => .error e
  | v => .ok v

def resolveItems (catalog : Catalog) : List Value → Except Fault (List Value)
  | [] => .ok []
  | item :: rest =>
    match resolveIn catalog item with
    | .error e => .error e
    | .ok item =>
      match resolveItems catalog rest with
      | .ok rest => .ok (item :: rest)
      | .error e => .error e

def resolvePairs (catalog : Catalog) : List (Value × Value) → Except Fault (List (Value × Value))
  | [] => .ok []
  | (k, v) :: rest =>
    let resolved :=
      if Keyword.callables.contains (Keyword.spelled k) && isReference v then resolveValue catalog v
      else if Keyword.spelled k == "children" then resolveIn catalog v
      else .ok v
    match resolved with
    | .error e => .error e
    | .ok v =>
      match resolvePairs catalog rest with
      | .ok rest => .ok ((k, v) :: rest)
      | .error e => .error e

end

end Reference

end CaptureForest
