import CaptureForest.Json.Writer
import CaptureForest.Output.Reply
import CaptureForest.Output.Table
import CaptureForest.Choice
import CaptureForest.Yaml.Writer
/-!
# Replies as text

The four forms of a reply: two structured ones that show all its fields, tables for people, and a quiet
one that shows counts or errors only.
-/

namespace CaptureForest

/-- A format with what it needs to know about the place of the output. -/
structure Presentation where
  format : OutputFormat
  style : Json.Style := .indented
  width : Int := Terminal.usualWidth
  colored : Bool := false
deriving Repr

namespace Presentation

/-- The usual presentation in a format. -/
def ofTerminal (format : OutputFormat) (t : Terminal) : Presentation where
  format := format
  width := t.width
  colored := t.showsColors

def paint (p : Presentation) (e : Emphasis) (text : String) : String := e.paint p.colored text

def joinLines (lines : List String) : String := String.intercalate "\n" lines

/-- The lines of a list under a title. -/
def titled (p : Presentation) (e : Emphasis) (title mark : String) (items : Value) :
    Except Fault (List String) := do
  if items.isTruthy then
    let lines := (← items.elements).map fun item => mark ++ item.plain
    return "" :: p.paint e title :: lines
  else return []

/-- The lines for one field of the data of a reply. -/
def dataLines (p : Presentation) (name value : Value) : List String :=
  let title := p.paint .strong (name.plain ++ ":")
  match value with
  | .map pairs => title :: pairs.map fun (k, v) => "  " ++ k.plain ++ ": " ++ v.plain
  | .list items => title :: items.map fun item => "  - " ++ item.plain
  | v => [title ++ " " ++ v.plain]

def dataTable (p : Presentation) : Value → Except Fault (List String)
  | .map pairs | .node _ pairs => .ok ["", joinLines (pairs.flatMap fun (k, v) => dataLines p k v)]
  | _ => .error (.ofKind .missingAttribute)

/-- A reply for people. -/
def plainReply (p : Presentation) (r : Reply) : Except Fault String := do
  let (mark, emphasis) := if r.success.isTruthy then ("✓", Emphasis.good) else ("✗", Emphasis.bad)
  let head := p.paint emphasis (mark ++ " " ++ r.message.plain)
  let table ← if r.data.isTruthy then p.dataTable r.data else .ok []
  let warnings ← p.titled .caution "Warnings:" "  ⚠ " r.warnings
  let errors ← p.titled .bad "Errors:" "  ✗ " r.errors
  return joinLines (head :: table ++ warnings ++ errors)

/-- The texts of a list, one a line. -/
def quietList (items : Value) : Except Fault String := do
  match (← items.elements).mapM Value.text? with
  | some texts => return joinLines texts
  | none => .error .wrongType

def quietReply (r : Reply) : Except Fault String :=
  if r.success.isTruthy then .ok ""
  else if r.errors.isTruthy then quietList r.errors
  else .ok r.message.plain

/-- A reply in a format. -/
def reply (p : Presentation) (r : Reply) : Except Fault String :=
  match p.format with
  | .json => Json.render p.style (.map r.fields)
  | .yaml => Yaml.render r.fields
  | .table => p.plainReply r
  | .quiet => quietReply r

/-- The place that a target names, as shown in a table. -/
def targetText : Value → String
  | .list parts => String.intercalate " " (parts.map Value.plain)
  | v => if v.isTruthy then v.plain else "-"

/-- The text of a template on one line, cut to what a table has room for. -/
def templateText (v : Value) : String := Table.cutTo 40 (Text.replaceChar '\n' ['\\', 'n'] v.plain)

def entryRow (entry : Value) : Except Fault (List String) := do
  let target ← entry.fieldOr "target" .none
  let keys ← entry.field "keys"
  let name ← entry.field "name"
  let group ← entry.fieldOr "group" .none
  let type ← entry.fieldOr "type" (.str "-")
  let template ← entry.fieldOr "template" (.str "-")
  return [keys.plain, name.plain, if group.isTruthy then "group" else type.plain, targetText target,
    templateText template]

def hookRow (hook : Value) : Except Fault (List String) :=
  ["keys", "phase", "entry", "callback"].mapM fun word => (hook.field word).map Value.plain

def table (p : Presentation) (headers : List String) (rows : List (List String)) : Except Fault String :=
  Table.render p.colored p.width headers rows

/-- The widths that the cells of rows of any values need, beginning with the widths of the headers. -/
def widenRows : List Nat → List Value → Except Fault (List Nat × List (List String))
  | widths, [] => .ok (widths, [])
  | widths, row :: rows => do
    let cells := (← row.elements).map Value.plain
    let (widths, others) ← widenRows (← Table.widen widths cells) rows
    return (widths, cells :: others)

/-- The headers of a table as texts. Other things with a length have a width, but cannot be shown. -/
def headerTexts (headers : List Value) : Except Fault (List String) :=
  let isBytes : Value → Bool
    | .bytes _ => true
    | _ => false
  match headers.mapM Value.text? with
  | some texts => .ok texts
  | none =>
      .error (if headers.all fun h => h.isText || isBytes h then .wrongType else .ofKind .missingAttribute)

/-- A table of any values. -/
def valueTable (p : Presentation) (headers rows : Value) : Except Fault String := do
  if rows.isTruthy then
    let headers ← headers.elements
    let lengths ← headers.mapM fun header => (header.elements).map List.length
    let (widths, cells) ← widenRows lengths (← rows.elements)
    let _ ← Table.fit p.width widths
    p.table (← headerTexts headers) cells
  else return ""

/-- Hooks for people. -/
def plainHooks (p : Presentation) (hooks total : Value) : Except Fault String := do
  if hooks.isTruthy then
    let rows ← (← hooks.elements).mapM hookRow
    let table ← p.table ["Keys", "Phase", "Entry", "Callback"] rows
    return joinLines [p.paint .strong ("Hook handlers (" ++ total.plain ++ ")"), "", table]
  else return p.paint .caution "No hook handlers"

/-- Entries for people. -/
def plainEntries (p : Presentation) (entries hooks : Value) : Except Fault String := do
  if entries.isTruthy then
    let items ← entries.elements
    let rows ← items.mapM entryRow
    let table ← p.table ["Keys", "Name", "Type", "Target", "Template"] rows
    let title := p.paint .strong ("Capture entries (" ++ toString items.length ++ ")")
    let below ←
      if hooks.isTruthy then do
        let count := (← hooks.elements).length
        pure ["", ← p.plainHooks hooks (.int count)]
      else pure []
    return joinLines ([title, "", table] ++ below)
  else return p.paint .caution "No entries"

/-- Compiled entries and the hooks that they ask for, in a format. -/
def entries (p : Presentation) (entries hooks : Value) : Except Fault String := do
  match p.format with
  | .table => p.plainEntries entries hooks
  | .quiet => return toString (← entries.elements).length
  | _ => p.reply (← Reply.ofEntries entries hooks)

/-- Hooks in a format. -/
def hooks (p : Presentation) (hooks total : Value) : Except Fault String :=
  match p.format with
  | .table => p.plainHooks hooks total
  | .quiet => .ok total.plain
  | _ => p.reply (Reply.ofHooks hooks total)

/-- The report of a check in a format. -/
def report (p : Presentation) (report : Value) : Except Fault String := do
  match p.format with
  | .table => p.plainReply { ← Reply.ofReport report with data := .none }
  | .quiet =>
    let errors ← report.fieldOr "errors" (.list [])
    if errors.isTruthy then return joinLines (← (← errors.elements).mapM Reply.finding) else return ""
  | _ => p.reply (← Reply.ofReport report)

end Presentation

/-- What is printed for a text: a line, or nothing if there is nothing to print. -/
def printed (text : String) : String := if text = "" then "" else text ++ "\n"

/-- Reads an output format by its word in any case. Bytes have a case too, but are no word. -/
def OutputFormat.ofWord (value : Value) : Except Fault OutputFormat :=
  match value, value.text? with
  | .bytes octets, _ =>
    OutputFormat.ofValue (.bytes (octets.map fun b => if 65 ≤ b && b ≤ 90 then b + 32 else b))
  | _, some text => OutputFormat.ofValue (.str (Text.lower text))
  | _, none => .error (.ofKind .missingAttribute)

end CaptureForest
