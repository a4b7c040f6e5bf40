import CaptureForest.Choice
import CaptureForest.Text.Layout
import CaptureForest.Text.LowerCase
/-!
# Log levels

How urgent a log record is. Levels are numbers, five of which have names.
-/

namespace CaptureForest

inductive LogLevel where
  | debug
  | info
  | warning
  | error
  | critical
deriving DecidableEq, Repr, Inhabited

namespace LogLevel

def all : List LogLevel := [.debug, .info, .warning, .error, .critical]

def word : LogLevel → String
  | .debug => "debug"
  | .info => "info"
  | .warning => "warning"
  | .error => "error"
  | .critical => "critical"

def label : LogLevel → String
  | .debug => "DEBUG"
  | .info => "INFO"
  | .warning => "WARNING"
  | .error => "ERROR"
  | .critical => "CRITICAL"

def number : LogLevel → Int
  | .debug => 10
  | .info => 20
  | .warning => 30
  | .error => 40
  | .critical => 50

def words : List String := all.map word

def ofWord? (word : String) : Option LogLevel := all.find? (·.word == word)

/-- Reads a level by its word in any case. -/
def ofValue (value : Value) : Except Fault LogLevel :=
  match ofWord? (Text.lower value.plain) with
  | some level => .ok level
  | none => .error (unknownWord "log level" value words)

/-- The level that the environment names, in any case of its letters; a dotless i is an i then. Without a
level, or with a word that is none, warnings are the least that counts. -/
def ofEnvironment (word : Option String) : LogLevel :=
  let spelled := word.map fun w => Text.lower (Text.replaceChar 'ı' ['i'] w)
  (spelled.bind ofWord?).getD .warning

/-- The name of a level number in records. -/
def nameOf (number : Int) : String :=
  match all.find? (·.number == number) with
  | some level => level.label
  | none => if number = 0 then "NOTSET" else "Level " ++ toString number

/-- Whether a record at the first level passes a threshold. -/
def atLeast (level threshold : LogLevel) : Bool := decide (threshold.number ≤ level.number)

end LogLevel

end CaptureForest
