import CaptureForest.FileTree
import CaptureForest.Json.Reader
import CaptureForest.Log.Message
import CaptureForest.Reference
import CaptureForest.Text.LowerCase
/-!
# Loading declarations

Declarations come from files in one of two notations, which the last part of the name tells. A file holds
a list of declarations, alone or as the templates of a map. Where a declaration can hold a callable, a
reference to one is replaced by what it names. How YAML is read is not a part of loading: a reader for it
is given.
-/

namespace CaptureForest

/-- The notations of declaration files. -/
inductive Notation where
  | json
  | yaml
deriving DecidableEq, Repr

namespace Notation

/-- The notation of files whose names end in a way. -/
def ofSuffix? (suffix : String) : Option Notation :=
  if suffix = ".json" then some .json
  else if suffix = ".yaml" || suffix = ".yml" then some .yaml
  else none

end Notation

namespace Load

/-- Why a file has no value: its text is malformed, or its reader fails in another way. -/
inductive ReadFault where
  | malformed (reason : Wrapped)
  | host (e : HostFault)
deriving BEq, Repr, Inhabited

/-- A reader of YAML. It takes the bytes of an open file as far as it needs them, so it is the reader
that meets bytes that are no text. -/
abbrev YamlReader := List UInt8 → Except ReadFault Value

def unsupported (path : String) : Fault :=
  let suffix := Text.lower (FilePath.suffix path)
  let shown := if suffix = "" then FilePath.name path else suffix
  .capture (.load ("Unsupported declaration file type '" ++ shown ++ "'") (some path))

def unreadable (path : String) (reason : Wrapped) : Fault :=
  .capture (.load ("Cannot parse " ++ path ++ ": " ++ reason.text) (some path) (some reason))

def wrongShape (path : String) (found : Value) : Fault :=
  .capture <| .load (path ++ " must contain a list of declarations, got " ++ found.typeName) (some path)

/-- Takes every way to end a line for a new line. -/
def unifyLines : List Char → List Char
  | '\r' :: '\n' :: rest => '\n' :: unifyLines rest
  | '\r' :: rest => '\n' :: unifyLines rest
  | c :: rest => c :: unifyLines rest
  | [] => []

/-- The text that bytes encode. -/
def decode? (octets : List UInt8) : Option String :=
  (String.fromUTF8? ⟨octets.toArray⟩).map fun text => String.ofList (unifyLines text.toList)

/-- The text of a file that is read as a whole. -/
def decode (octets : List UInt8) : Except Fault String :=
  match decode? octets with
  | some text => .ok text
  | none => .error (.ofKind .unicodeDecode)

/-- The value of a JSON text. -/
def parseJson (path text : String) : Except Fault Value :=
  match Json.readChars text.toList with
  | .ok v => .ok v
  | .error c => .error (unreadable path { text := c.text text.toList })

/-- The value that a file holds in a notation. -/
def parse (yaml : YamlReader) (path : String) (octets : List UInt8) : Notation → Except Fault Value
  | .json => decode octets >>= parseJson path
  | .yaml =>
    match yaml octets with
    | .ok v => .ok v
    | .error (.malformed reason) => .error (unreadable path reason)
    | .error (.host e) => .error (.host e)

/-- The list of declarations in a document. -/
def itemsOf (path : String) (document : Value) : Except Fault (List Value) :=
  let content := match document with
    | .map pairs => (Pairs.lookup? "templates" pairs).getD document
    | v => v
  match content with
  | .list items => .ok items
  | v => .error (wrongShape path v)

section

variable (yaml : YamlReader) (catalog : Catalog) (tree : FileTree)

/-- The list of declarations in a file, as it stands there. -/
def items (given : String) : Except Fault (List Value) :=
  let path := FilePath.normalize given
  match Notation.ofSuffix? (Text.lower (FilePath.suffix path)) with
  | none => .error (unsupported path)
  | some kind => do
    let octets ← tree.read path
    let document ← parse yaml path octets kind
    itemsOf path document

/-- The declarations of a file, with the callables that they refer to. -/
def declarations (path : String) : Except Fault Value := do
  let items ← items yaml tree path
  Reference.resolveIn catalog (.list items)

/-- The report that a file was read, which comes before references are resolved. -/
def trace (path : String) : List LogMessage :=
  match items yaml tree path with
  | .ok items => [⟨.debug, "api.operations",
      "Loaded " ++ toString items.length ++ " declarations from " ++ FilePath.normalize path⟩]
  | .error _ => []

end

end Load

end CaptureForest
