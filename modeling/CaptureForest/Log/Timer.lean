import CaptureForest.Log.Entry
/-!
# Timing operations

An operation whose time is taken announces itself, runs, and is reported with the time it took, as
completed or as failed. Its own result or failure is passed on.
-/

namespace CaptureForest

/-- A log that takes entries, as a part of a state, with the time that operations take in milliseconds
and the number under which errors are reported. -/
structure Timer (σ : Type) where
  emit : LogEntry → σ → σ
  elapsed : Binary64
  errorId : String

namespace Timer

/-- Whether a fault is an interrupt, which is not held up by reports. -/
def isInterrupt : Fault → Bool
  | .host e => e.kind == .interrupt
  | .capture _ => false

variable {σ α : Type}

/-- Hands an entry to the log, unless it could not be made. -/
def send (t : Timer σ) (entry : Except Fault LogEntry) : Effect σ Unit :=
  match entry with
  | .ok e => modify (t.emit e)
  | .error e => throw e

/-- Names that the fields of an operation cannot have. -/
def ownNames : List String := ["self", "operation"]

def start (operation : String) (fields : Pairs) : Except Fault LogEntry :=
  LogEntry.note .debug ("Starting " ++ operation)
    (Pairs.update (Pairs.fields [("operation", .str operation)]) fields)

def finish (t : Timer σ) (operation status : String) (fields : Pairs) : Except Fault LogEntry :=
  LogEntry.timing operation (.float t.elapsed) status fields

/-- The fault of fields among which the error of an operation has a name already. It is found while
that error is handled, and then it is a fault of the key. -/
def errorTaken : Fault := .host { kind := .key, arguments := [.str "error"] }

def failure (t : Timer σ) (operation : String) (fields : Pairs) (e : Fault) : Except Fault LogEntry :=
  if Pairs.namesAny ["error"] fields then .error errorTaken
  else LogEntry.failure t.errorId (operation ++ " failed") (some e) fields

/-- Reports the failure of an operation and passes it on. -/
def fail (t : Timer σ) (operation : String) (fields : Pairs) (e : Fault) : Effect σ α :=
  if isInterrupt e then throw e
  else do
    t.send (t.finish operation "failed" fields)
    t.send (t.failure operation fields e)
    throw e

/-- Runs an operation and takes its time. -/
def run (t : Timer σ) (operation : String) (fields : Pairs) (body : Effect σ α) : Effect σ α := do
  t.send ((Pairs.checkNames ownNames fields).bind fun _ => start operation fields)
  let result ← tryCatch body (t.fail operation fields)
  t.send (t.finish operation "completed" fields)
  return result

end Timer

end CaptureForest
