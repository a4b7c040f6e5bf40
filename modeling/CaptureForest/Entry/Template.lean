import CaptureForest.Declaration.Basic
import CaptureForest.Fault.Basic
/-!
# Templates

Where the text of a capture comes from: it is given in the declaration, read from a file, or made by a
function. Of several template attributes the first in order of priority counts.
-/

namespace CaptureForest

inductive Template where
  | literal (text : Value)
  | file (path : Value)
  | function (function : Value)
deriving BEq, Repr, Inhabited

namespace Template

def tag : Template → String
  | .literal _ => "string"
  | .file _ => "file"
  | .function _ => "function"

/-- The value that the capture engine reads. -/
def record : Template → Value
  | .literal text => text
  | .file path => .list [.str "file", path]
  | .function f => .list [.str "function", f]

/-- Lines of a template put together. -/
def joinLines (lines : List Value) : Except Fault Value :=
  match lines.mapM Value.text? with
  | some texts => .ok (.str (String.intercalate "\n" texts))
  | none => .error .wrongType

/-- A template that is given as one text or as a list of lines. -/
def ofText (value : Value) : Except Fault Template :=
  match value.items? with
  | none => .ok (.literal value)
  | some lines =>
    match joinLines lines with
    | .ok text => .ok (.literal text)
    | .error e => .error e

end Template

namespace Declaration

/-- The template attribute that counts. -/
def usedTemplate? (node : Declaration) : Option String := Keyword.templates.find? node.sets

/-- The template of a declaration. -/
def template (node : Declaration) : Except Fault (Option Template) :=
  match node.usedTemplate? with
  | none => .ok none
  | some "template" =>
    match Template.ofText (node.get "template") with
    | .ok t => .ok (some t)
    | .error e => .error e
  | some "template-file" => .ok (some (.file (node.get "template-file")))
  | some word => .ok (some (.function (node.get word)))

end Declaration

end CaptureForest
