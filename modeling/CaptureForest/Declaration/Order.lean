import CaptureForest.Declaration.Basic
import CaptureForest.Fault.Basic
import CaptureForest.StableSort
/-!
# Orders on declarations

What the named orders compare, and how a list of declarations is sorted by an order or by any other
question that can be asked about two declarations.
-/

namespace CaptureForest

/-- A "less than" question about two declarations. -/
abbrev Less := Declaration → Declaration → Except Fault Bool

namespace SiblingOrder

def textLess (a b : String) : Bool := decide (a < b)

/-- Whether the first declaration is less than the second. -/
def less : SiblingOrder → Less
  | .nameUp, a, b => .ok (textLess a.name.plain b.name.plain)
  | .nameDown, a, b => .ok (textLess b.name.plain a.name.plain)
  | .keysUp, a, b => .ok (textLess a.keys.plain b.keys.plain)
  | .keysDown, a, b => .ok (textLess b.keys.plain a.keys.plain)
  | .nameLength, a, b => .ok (decide (a.name.plain.length < b.name.plain.length))
  | .leavesFirst, a, b => .ok (!a.hasChildren && b.hasChildren)
  | .fewerAttributes, a, b => .ok (decide (a.attributes.length < b.attributes.length))
  | .plainKeys, a, b =>
    match a.keys.text?, b.keys.text? with
    | some s, some t => .ok (textLess s t)
    | _, _ => .error .wrongType
  | .never, _, _ => .ok false
  | .refusing, _, _ => .error (.badValue "predicate failed")

end SiblingOrder

namespace Callable

/-- The question that a callable answers about two declarations. Types and built-in functions but for
`print` take no pair of declarations; any other callable that is no order answers nothing, which means
no. -/
def less : Callable → Less
  | .order name => name.less
  | .builtin _ "print" => fun _ _ => .ok false
  | .function .. | .object _ => fun _ _ => .ok false
  | .builtin .. | .type .. => fun _ _ => .error .wrongType

end Callable

namespace Declaration

/-- The declarations sorted by a question. Unless another sorter is given, the sort is stable. -/
def sort (less : Less) (nodes : List Declaration) (sorter : Sorter := StableSort.sorter) :
    Except Fault (List Declaration) :=
  sorter.sort less nodes

end Declaration

end CaptureForest
