import CaptureForest.Fault.Host
import CaptureForest.Fault.Cause
import CaptureForest.Pairs
/-!
# Errors

An error of this library names its cause, a message, a code, advice and a context, and is classified by
severity and category. A fault is such an error or a fault of the host.
-/

namespace CaptureForest

inductive Severity where
  | low
  | medium
  | high
  | critical
deriving DecidableEq, Repr, Inhabited

namespace Severity

def all : List Severity := [.low, .medium, .high, .critical]

def word : Severity → String
  | .low => "low"
  | .medium => "medium"
  | .high => "high"
  | .critical => "critical"

end Severity

inductive Category where
  | user
  | system
  | internal
  | external
deriving DecidableEq, Repr, Inhabited

namespace Category

def all : List Category := [.user, .system, .internal, .external]

def word : Category → String
  | .user => "user"
  | .system => "system"
  | .internal => "internal"
  | .external => "external"

end Category

/-- The text of the fault that an error wraps. The wording of faults in markup is not fixed. -/
structure Wrapped where
  text : String
  fromMarkup : Bool := false
deriving BEq, Repr, Inhabited

structure CaptureError where
  cause : Cause
  message : Value
  code : Value
  fix : Value
  context : Value
  wrapped : Option Wrapped := none
  severity : Severity := .medium
  category : Category := .user
deriving BEq, Repr, Inhabited

namespace CaptureError

/-- An error of the user, with the default code and advice of its cause; `context` comes before what
the cause adds. -/
def ofCause (cause : Cause) (message : String) (context : List (String × Value) := [])
    (wrapped : Option Wrapped := none) : CaptureError where
  cause := cause
  message := .str message
  code := .str cause.code
  fix := .str cause.fix
  context := .map (Pairs.update (Pairs.fields context) (Pairs.fields cause.contextFields))
  wrapped := wrapped

/-- An error about a declaration: the message is the violated rule with a detail. -/
def ofDeclaration (cause : Cause) (name : Value) (detail : String)
    (context : List (String × Value) := []) : CaptureError :=
  ofCause cause (Cause.aboutDeclaration name detail) context

def rule (cause : Cause) : String := cause.rule?.getD ""

def missingKeys (name : Value) (path : String) : CaptureError :=
  let cause := Cause.missingKeys name
  ofDeclaration cause name (rule cause) [("path", .str path)]

def missingName (name : Value) (path : String) : CaptureError :=
  ofDeclaration (.declaration name) name "name is required" [("path", .str path)]

/-- An error about a parent with attributes of its own, which are listed. -/
def parentShape (name : Value) (extra : List Value) (words : List String) : CaptureError :=
  let cause := Cause.parentShape name extra
  let found := if extra.isEmpty then "" else " (found: " ++ String.intercalate ", " words ++ ")"
  ofDeclaration cause name (rule cause ++ found)

def childrenShape (name : Value) (detail : String) : CaptureError :=
  let cause := Cause.childrenShape name
  ofDeclaration cause name (rule cause ++ (if detail = "" then "" else " (" ++ detail ++ ")"))

def textOrTexts (name key value : Value) : CaptureError :=
  let cause := Cause.textOrTexts name key value
  ofDeclaration cause name ("'" ++ key.plain ++ "' " ++ rule cause ++ ", got " ++ value.typeName)

def hookTarget (phase : Value) (validPhases : List String) : CaptureError :=
  ofCause (.hookTarget phase (validPhases.map .str))
    ("Hook phase " ++ phase.quoted ++ " does not map to a known host hook")

def invalidArgument (message name : String) : CaptureError :=
  ofCause (.argument (.str name) (.list [])) message

def configuration (message setting : String) : CaptureError :=
  ofCause (.configuration (.str setting)) message

def load (message : String) (file : Option String) (wrapped : Option Wrapped := none) : CaptureError :=
  ofCause (.load file) message [] wrapped

/-- The message with its advice, shown with the number by which the error is reported. -/
def userMessage (e : CaptureError) (id : String) : String :=
  e.message.plain ++ " (error id: " ++ id ++ ")\n\nSuggested fix:\n" ++ e.fix.plain

/-- All that is known of an error, in the order of reports. -/
def details (e : CaptureError) : Pairs := Pairs.fields [
  ("error_code", e.code),
  ("message", e.message),
  ("category", .str e.category.word),
  ("severity", .str e.severity.word),
  ("suggested_fix", e.fix),
  ("context", e.context),
  ("original_error", match e.wrapped with | some w => .str w.text | none => .none)]

end CaptureError

/-- What makes an operation fail. -/
inductive Fault where
  | capture (e : CaptureError)
  | host (e : HostFault)
deriving BEq, Repr, Inhabited

namespace Fault

def kindName : Fault → String
  | .capture e => e.cause.family
  | .host e => e.kind.name

def text : Fault → String
  | .capture e => e.message.plain
  | .host e => e.text

/-- A fault of the host without further detail. -/
def ofKind (kind : HostKind) : Fault := .host { kind := kind }

def wrongType : Fault := ofKind .type

def badValue (message : String) : Fault := .host { kind := .value, arguments := [.str message] }

end Fault

end CaptureForest
