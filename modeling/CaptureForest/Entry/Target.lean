import CaptureForest.Declaration.Basic
/-!
# Targets

Where a capture goes. A declaration names its target by one of the location attributes; of several, the
first in order of priority counts. The record of a target begins with a tag that tells its shape.
-/

namespace CaptureForest

/-- Where a capture goes: the clocked item, the item with an id, wherever a function moves to, a
descriptor that is used as it is, or a file with an optional refinement and datetree. -/
inductive Target where
  | clock
  | id (id : Value)
  | function (function : Value)
  | raw (descriptor : Value)
  | file (path : Value) (refinement : Option String) (argument : Value) (datetree : Value)
deriving BEq, Repr, Inhabited

namespace Target

/-- The tag of a file target: the word `file`, its refinement, and the datetree modifier. -/
def fileTag (refinement : Option String) (datetree : Value) : String :=
  String.intercalate "+" <|
    ["file"] ++ refinement.toList ++ (if datetree.isSet then ["datetree"] else [])

def tag : Target → String
  | .clock => "clock"
  | .id _ => "id"
  | .function _ => "function"
  | .raw descriptor =>
    match descriptor.items? with
    | some (head :: _) => head.plain
    | _ => "target"
  | .file _ refinement _ datetree => fileTag refinement datetree

/-- What follows the path in the record of a file target: nothing without a refinement, the elements of
an outline path, or the one argument of any other refinement. -/
def fileArguments (refinement : Option String) (argument : Value) : List Value :=
  match refinement with
  | none => []
  | some "olp" => argument.items?.getD [argument]
  | some _ => [argument]

/-- The record that the capture engine reads. -/
def record (t : Target) : Value :=
  match t with
  | .clock => .list [.str t.tag]
  | .id value => .list [.str t.tag, value]
  | .function f => .list [.str t.tag, f]
  | .raw (.tuple items) => .list items
  | .raw descriptor => descriptor
  | .file location refinement argument _ =>
      .list (.str t.tag :: location :: fileArguments refinement argument)

end Target

namespace Declaration

/-- The first refinement of a file that is set. -/
def fileRefinement? (node : Declaration) : Option String := Keyword.fileRefinements.find? node.sets

/-- The target in a file. A datetree counts only for an outline path. -/
def fileTarget (node : Declaration) (path : Value) : Target :=
  match node.fileRefinement? with
  | none => .file path none .none .none
  | some refinement =>
    let datetree := if refinement = "olp" && node.sets "datetree" then node.get "datetree" else .none
    .file path (some refinement) (node.get refinement) datetree

/-- The location attribute that counts: the first that is set, where a function beside a file refines
the file and does not compete. -/
def usedLocation? (node : Declaration) : Option String :=
  Keyword.locations.find? fun word => node.sets word && !(word == "function" && node.sets "file")

/-- The target that a declaration names. -/
def target (node : Declaration) : Option Target :=
  node.usedLocation?.map fun word =>
    let value := node.get word
    match word with
    | "clock" => .clock
    | "id" => .id value
    | "function" => .function value
    | "target" => .raw value
    | _ => node.fileTarget value

end Declaration

end CaptureForest
