import CaptureForest.Value.Text
import CaptureForest.Pairs
import CaptureForest.Fault.Basic
/-!
# Writing JSON

Values as JSON, on one line or indented by two columns a level. Characters outside ASCII stand for
themselves. Keys that are truth values, numbers or absent become texts; no other key but a text can be
written. A value that JSON does not know is written as its text.
-/

namespace CaptureForest

namespace Json

/-- How the parts of a text are set apart. -/
inductive Style where
  | compact
  | indented
deriving DecidableEq, Repr

def escapeChar (c : Char) : List Char :=
  match c with
  | '"' => ['\\', '"']
  | '\\' => ['\\', '\\']
  | '\n' => ['\\', 'n']
  | '\r' => ['\\', 'r']
  | '\t' => ['\\', 't']
  | '\x08' => ['\\', 'b']
  | '\x0c' => ['\\', 'f']
  | c => if c.toNat < 0x20 then '\\' :: 'u' :: Text.hexDigits 4 c.toNat else [c]

/-- A text between double quotes. -/
def writeString (s : String) : String :=
  "\"" ++ String.ofList (s.toList.flatMap escapeChar) ++ "\""

def writeFloat : Binary64 → String
  | .nan => "NaN"
  | .infinity negative => if negative then "-Infinity" else "Infinity"
  | x => x.text

/-- The text of a key. -/
def keyText : Value → Except Fault String
  | .none => .ok "null"
  | .bool b => .ok (if b then "true" else "false")
  | .int n => .ok (toString n)
  | .float x => .ok (writeFloat x)
  | v =>
    match v.text? with
    | some s => .ok s
    | none => .error .wrongType

/-- A line break with the indentation of a level, where the style has one. -/
def lineBreak (style : Style) (level : Nat) : String :=
  match style with
  | .compact => ""
  | .indented => "\n" ++ String.ofList (List.replicate (2 * level) ' ')

def colon : Style → String
  | .compact => ":"
  | .indented => ": "

/-- Parts between brackets, one level below the given one. -/
def enclose (style : Style) (level : Nat) (opening closing : String) (parts : List String) : String :=
  if parts.isEmpty then opening ++ closing
  else
    opening ++ lineBreak style (level + 1) ++
      String.intercalate ("," ++ lineBreak style (level + 1)) parts ++ lineBreak style level ++ closing

mutual

def write (style : Style) (level : Nat) : Value → Except Fault String
  | .list items => (writeItems style (level + 1) items).map (enclose style level "[" "]")
  | .tuple items => (writeItems style (level + 1) items).map (enclose style level "[" "]")
  | .map pairs => (writePairs style (level + 1) pairs).map (enclose style level "\x7b" "\x7d")
  | .none => .ok "null"
  | .bool b => .ok (if b then "true" else "false")
  | .int n => .ok (toString n)
  | .float x => .ok (writeFloat x)
  | v => .ok (writeString (v.text?.getD v.plain))

def writeItems (style : Style) (level : Nat) : List Value → Except Fault (List String)
  | [] => .ok []
  | item :: rest => do
    let first ← write style level item
    let others ← writeItems style level rest
    return first :: others

def writePairs (style : Style) (level : Nat) : List (Value × Value) → Except Fault (List String)
  | [] => .ok []
  | (k, v) :: rest => do
    let key ← keyText k
    let first ← write style level v
    let others ← writePairs style level rest
    return (writeString key ++ colon style ++ first) :: others

end

/-- A value as JSON. -/
def render (style : Style) (v : Value) : Except Fault String := write style 0 v

end Json

end CaptureForest
