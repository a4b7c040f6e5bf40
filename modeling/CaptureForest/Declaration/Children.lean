import CaptureForest.Declaration.Basic
import CaptureForest.Fault.Basic
/-!
# Children and forests

How the children of a declaration and a whole forest are read from values: each item must be shaped
like a declaration, and the first that is not is named in the error.
-/

namespace CaptureForest

namespace Declaration

/-- The declarations that the items describe, or the first item that describes none, with its place
counted from the given index. -/
def ofItems (index : Nat) : List Value → Except (Nat × Value) (List Declaration)
  | [] => .ok []
  | item :: rest =>
    match ofValue? item with
    | none => .error (index, item)
    | some node =>
      match ofItems (index + 1) rest with
      | .ok nodes => .ok (node :: nodes)
      | .error e => .error e

/-- The children of a declaration as a list; a single child needs no list. -/
def childList (node : Declaration) : Except CaptureError (List Declaration) :=
  let raw := node.get "children"
  match ofValue? raw with
  | some child => .ok [child]
  | none =>
    match raw.items? with
    | none => .error (.childrenShape node.name ("got " ++ raw.typeName))
    | some items =>
      match ofItems 0 items with
      | .ok children => .ok children
      | .error (index, item) =>
        .error (.childrenShape node.name ("element " ++ toString index ++ " is a " ++ item.typeName))

/-- The children of a declaration that has well-shaped children, and none otherwise. -/
def children (node : Declaration) : List Declaration :=
  if node.hasChildren then
    match node.childList with
    | .ok children => children
    | .error _ => []
  else []

/-- The roots of a forest: a list or tuple of declarations. -/
def ofForest (forest : Value) : Except CaptureError (List Declaration) :=
  match forest.items? with
  | none =>
      .error (.invalidArgument ("Declarations must be given as a list, got " ++ forest.typeName) "forest")
  | some items =>
    match ofItems 0 items with
    | .ok nodes => .ok nodes
    | .error (index, item) =>
      .error (.invalidArgument
        ("Forest element " ++ toString index ++ " is a " ++ item.typeName ++ ", not a declaration")
        "forest")

end Declaration

end CaptureForest
