import CaptureForest.Entry.Basic
import CaptureForest.Entry.Hook
import CaptureForest.Choice
/-!
# Resolving leaves

What a single declaration resolves to: its entry type, the options that the capture engine knows, and
the attributes that are handed through. Both lists keep the declared order.
-/

namespace CaptureForest

/-- The error about a declared type that is no entry type. -/
def unknownType (node : Declaration) (ancestors : List Declaration) (e : Fault) : CaptureError :=
  let fields := [("path", .str (node.path ancestors))]
  { CaptureError.ofDeclaration (.declaration node.name) node.name e.text fields with
    code := .str "USER_INVALID_TYPE"
    fix := .str ("Use one of: " ++ String.intercalate ", " EntryType.words) }

namespace Declaration

/-- The entry type of a leaf: the declared one or the default. Parents and bare declarations have none. -/
def entryType (node : Declaration) (default : EntryType) (ancestors : List Declaration) :
    Except Fault (Option EntryType) :=
  if node.hasChildren || node.isBare then .ok none
  else if !node.sets "type" then .ok (some default)
  else
    match EntryType.ofValue (node.get "type") with
    | .ok t => .ok (some t)
    | .error e => .error (.capture (unknownType node ancestors e))

/-- The attributes that are set, in declared order. -/
def setAttributes (node : Declaration) : Pairs := node.attributes.filter fun pair => pair.2.isSet

/-- The options for the capture engine. -/
def options (node : Declaration) : Pairs :=
  node.setAttributes.filter fun pair => pair.1.isAmong Keyword.options

/-- The attributes that are no keywords. -/
def passthrough (node : Declaration) : Pairs :=
  node.setAttributes.filter fun pair => !pair.1.isAmong Keyword.recognized

/-- The entry of a leaf. -/
def leaf (node : Declaration) (default : EntryType) (ancestors : List Declaration) (key : String) :
    Except Fault Leaf :=
  match node.entryType default ancestors with
  | .error e => .error e
  | .ok type =>
    match node.template with
    | .error e => .error e
    | .ok template => .ok {
        key, name := node.name, type, target := node.target, template
        options := node.options, passthrough := node.passthrough }

end Declaration

end CaptureForest
