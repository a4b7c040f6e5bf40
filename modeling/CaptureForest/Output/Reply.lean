import CaptureForest.Fault.Basic
/-!
# Replies

What a command answers: whether it succeeded, a message, data, warnings and errors. Entries, hooks and
reports come as structured values, which may lack fields.
-/

namespace CaptureForest

namespace Value

/-- The value under a key that has to be there. -/
def field (word : String) : Value → Except Fault Value
  | .map pairs =>
    match Pairs.lookup? word pairs with
    | some v => .ok v
    | .none => .error (.ofKind .key)
  | _ => .error .wrongType

/-- The value under a key of a map or an attribute of a declaration, or another one if it is missing. -/
def fieldOr (v : Value) (word : String) (default : Value) : Except Fault Value :=
  match v with
  | .map pairs | .node _ pairs => .ok ((Pairs.lookup? word pairs).getD default)
  | _ => .error (.ofKind .missingAttribute)

/-- What running through a value yields, if it can be run through. -/
def elements (v : Value) : Except Fault (List Value) :=
  match v.elements? with
  | some items => .ok items
  | .none => .error .wrongType

def orElse (v default : Value) : Value := if v.isTruthy then v else default

end Value

/-- The answer of a command. -/
structure Reply where
  success : Value
  message : Value
  data : Value := .none
  warnings : Value := .none
  errors : Value := .none
deriving BEq, Repr, Inhabited

namespace Reply

/-- The fields of a reply in structured output. All are always there. -/
def fields (r : Reply) : Pairs := Pairs.fields [
  ("success", r.success),
  ("message", r.message),
  ("data", r.data.orElse (.map [])),
  ("warnings", r.warnings.orElse (.list [])),
  ("errors", r.errors.orElse (.list []))]

/-- The reply with compiled entries and their hooks. -/
def ofEntries (entries hooks : Value) : Except Fault Reply := do
  let entryCount := (← entries.elements).length
  let hookCount := (← hooks.elements).length
  return {
    success := .bool true
    message := .str ("Compiled " ++ toString entryCount ++ " entries")
    data := .record [("entries", entries), ("hooks", hooks), ("total_entries", .int entryCount),
      ("total_hooks", .int hookCount)] }

/-- The reply with hooks, of which a number were found. -/
def ofHooks (hooks total : Value) : Reply where
  success := .bool true
  message := .str ("Found " ++ total.plain ++ " hook handlers")
  data := .record [("hooks", hooks), ("total_count", total)]

/-- A finding of a report: where it is and what it is. -/
def finding (v : Value) : Except Fault String := do
  let place ← v.field "field_name"
  let message ← v.field "message"
  return place.plain ++ ": " ++ message.plain

/-- The reply with the report of a check. -/
def ofReport (report : Value) : Except Fault Reply := do
  let errors ← report.fieldOr "errors" (.list [])
  let warnings ← report.fieldOr "warnings" (.list [])
  let checked ← report.fieldOr "checked" (.int 0)
  let errorItems ← errors.elements
  let warningItems ← warnings.elements
  let success ← report.fieldOr "is_valid" (.bool !errors.isTruthy)
  let warningTexts ← warningItems.mapM finding
  let errorTexts ← errorItems.mapM finding
  return {
    success
    message := .str ("Checked " ++ checked.plain ++ " declarations: " ++ toString errorItems.length ++
      " errors, " ++ toString warningItems.length ++ " warnings")
    data := report
    warnings := .ofStrings warningTexts
    errors := .ofStrings errorTexts }

end Reply

end CaptureForest
