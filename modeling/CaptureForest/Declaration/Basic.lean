import CaptureForest.Keyword
/-!
# Declarations

A declaration has a name and attributes in declared order. It describes one capture template, or a
named group of templates if it has children. Any map is shaped like a declaration: its entry `name`
becomes the name and every other entry an attribute under its keyword.
-/

namespace CaptureForest

structure Declaration where
  name : Value
  attributes : Pairs
deriving BEq, Repr, Inhabited

namespace Declaration

/-- Takes one entry of a map into a declaration. -/
def accept (node : Declaration) (entry : Value × Value) : Declaration :=
  let key := Keyword.attributeKey entry.1
  if key.isWord "name" then { node with name := entry.2 }
  else { node with attributes := Pairs.insert key entry.2 node.attributes }

/-- The declaration that a map describes. -/
def ofMapping (entries : Pairs) : Declaration := entries.foldl accept ⟨.none, []⟩

/-- A declaration with the given name and attributes, spelled in any way. -/
def declare (name : Value) (attributes : Pairs) : Declaration :=
  ⟨name, Pairs.ofList (attributes.map fun (k, v) => (Keyword.attributeKey k, v))⟩

/-- The declaration that a value is or describes. -/
def ofValue? : Value → Option Declaration
  | .node name attributes => some ⟨name, attributes⟩
  | .map entries => some (ofMapping entries)
  | _ => none

def toValue (node : Declaration) : Value := .node node.name node.attributes

/-- The value of an attribute; an attribute that is not declared has no value. -/
def get (node : Declaration) (word : String) : Value := Pairs.get word node.attributes

/-- Whether an attribute is declared with a value other than none and false. -/
def sets (node : Declaration) (word : String) : Bool := (node.get word).isSet

/-- The activation keys that this declaration adds. -/
def keys (node : Declaration) : Value := node.get "keys"

/-- A declaration has children if its attribute `children` is a sequence that is not empty, or any
other value that is set. -/
def hasChildren (node : Declaration) : Bool :=
  match (node.get "children").items? with
  | some items => !items.isEmpty
  | none => node.sets "children"

/-- A declaration is bare if it has keys and no other attribute. -/
def isBare (node : Declaration) : Bool :=
  !node.attributes.isEmpty && node.attributes.all fun pair => pair.1.isWord "keys"

/-- The map that describes a declaration. -/
def toMapping (node : Declaration) : Pairs := Pairs.ofList ((.str "name", node.name) :: node.attributes)

/-- The names from the root down to a declaration, for messages. -/
def path (node : Declaration) (ancestors : List Declaration) : String :=
  String.intercalate "/" ((ancestors ++ [node]).map fun d => d.name.plain)

end Declaration

end CaptureForest
