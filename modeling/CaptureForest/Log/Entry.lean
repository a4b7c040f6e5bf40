import CaptureForest.Effect
import CaptureForest.Log.Level
import CaptureForest.Number.Places
/-!
# Log entries

What is handed to a log: a channel, a level, a message and fields. Failures go to a channel of their own
with what is known of the error, and so do the times that operations take.
-/

namespace CaptureForest

/-- The channels of a log. -/
inductive LogChannel where
  | general
  | errors
  | timing
deriving DecidableEq, Repr, Inhabited

namespace LogChannel

def all : List LogChannel := [.general, .errors, .timing]

def word : LogChannel → String
  | .general => "general"
  | .errors => "errors"
  | .timing => "timing"

end LogChannel

structure LogEntry where
  channel : LogChannel
  level : LogLevel
  message : String
  fields : Pairs := []
deriving BEq, Repr, Inhabited

namespace LogEntry

/-- A message of a level on the general channel. Its fields cannot use the names of its own parts. -/
def note (level : LogLevel) (message : String) (fields : Pairs) : Except Fault LogEntry := do
  Pairs.checkNames ["self", "message"] fields
  return ⟨.general, level, message, fields⟩

/-- What fields tell of an error. An error of this library is reported under a number. -/
def errorFields (id : String) : Fault → Pairs
  | .capture e => Pairs.fields [
      ("error_id", .str id), ("error_code", e.code), ("category", .str e.category.word),
      ("context", e.context)]
  | .host _ => []

/-- The fields with what is known of an error. Fields that were there keep their places. -/
def withError (id : String) (fields : Pairs) (e : Fault) : Pairs :=
  let named := Pairs.fields [("error_type", .str e.kindName), ("error_message", .str e.text)]
  Pairs.update (Pairs.update fields named) (errorFields id e)

/-- A failure, with the error that caused it if there is one. -/
def failure (id message : String) (error : Option Fault) (fields : Pairs) : Except Fault LogEntry := do
  Pairs.checkNames ["self", "message", "error"] fields
  return ⟨.errors, .error, message, match error with
    | some e => withError id fields e
    | none => fields⟩

/-- An error as a failure, under a message of its own or under its kind. -/
def ofFault (id : String) (message : Option String) (e : Fault) (fields : Pairs) : Except Fault LogEntry :=
  failure id (message.getD ("Error: " ++ e.kindName)) (some e) fields

/-- A duration in milliseconds as the fields and the message give it: to three and to two places. -/
def duration : Value → Except Fault (Value × String)
  | .float x => .ok (.float (x.roundPlaces 3), x.styledText .fixed 2 false)
  | v => do
    let n ← match v with
      | .bool b => .ok (if b then 1 else 0)
      | .int n => .ok n
      | _ => .error .wrongType
    let x := Binary64.ofInt n
    if x.isFinite then return (.int n, x.styledText .fixed 2 false) else throw (.ofKind .overflow)

/-- The time that an operation took, and how it ended. -/
def timing (operation : String) (elapsed : Value) (status : String) (fields : Pairs) :
    Except Fault LogEntry := do
  Pairs.checkNames ["self", "operation", "duration_ms", "status"] fields
  let (rounded, text) ← duration elapsed
  let measured := Pairs.fields
    [("operation", .str operation), ("duration_ms", rounded), ("status", .str status)]
  let message := operation ++ " " ++ status ++ " in " ++ text ++ "ms"
  return ⟨.timing, .info, message, Pairs.update fields measured⟩

end LogEntry

end CaptureForest
