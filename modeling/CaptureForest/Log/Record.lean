import CaptureForest.Calendar
import CaptureForest.Json.Writer
import CaptureForest.Log.Level
/-!
# Log records

A record of what happened: when, how urgent, where, a message, and fields with more. A record is written
as a JSON object, as a line for people, or as a line that also tells time and place.
-/

namespace CaptureForest

/-- The ways to write records. -/
inductive LogFormat where
  | json
  | human
  | debug
deriving DecidableEq, Repr, Inhabited

namespace LogFormat

def all : List LogFormat := [.json, .human, .debug]

def word : LogFormat → String
  | .json => "json"
  | .human => "human"
  | .debug => "debug"

/-- Reads a format by its word. -/
def ofValue (value : Value) : Except Fault LogFormat :=
  match all.find? fun f => value.isWord f.word with
  | some f => .ok f
  | none => .error (.badValue (value.quoted ++ " is not a valid LogFormat"))

end LogFormat

/-- The place in the code that a record is from. -/
structure CodePlace where
  module : String
  function : String
  line : Int
deriving DecidableEq, Repr, Inhabited

/-- When and where records are made. The time is in seconds after the start of 1970. -/
structure Stamp where
  time : Binary64 := .zero false
  place : CodePlace
deriving DecidableEq, Repr, Inhabited

namespace Stamp

def notANumber : Fault := .badValue "Invalid value NaN (not a number)"

/-- The whole seconds of a time and the rest: the rest has the sign of the time. -/
def split (x : Binary64) : Except Fault (Int × Binary64) :=
  match x with
  | .nan => .error notANumber
  | _ =>
    match x.truncate? with
    | some whole => .ok (whole, x.add (Binary64.ofInt whole).neg)
    | none => .error (.ofKind .overflow)

/-- The last whole second before a time. -/
def second (x : Binary64) : Except Fault Int := do
  let (whole, rest) ← split x
  return if rest.isNegative && !rest.isZero then whole - 1 else whole

/-- The time in seconds and microseconds, to the nearest microsecond. -/
def microseconds (x : Binary64) : Except Fault (Int × Nat) := do
  let (whole, rest) ← split x
  let scaled := (rest.mul (.ofInt 1000000)).roundPlaces 0
  let n := (scaled.truncate?.getD 0)
  if n ≥ 1000000 then return (whole + 1, (n - 1000000).toNat)
  else if n < 0 then return (whole - 1, (n + 1000000).toNat)
  else return (whole, n.toNat)

/-- The seconds and the years that a clock can count: those of 64 bits, and those of 32 bits from 1900 on. -/
def secondRange : Int × Int := (-9223372036854775808, 9223372036854775807)

def yearRange : Int × Int := (-2147481748, 2147485547)

def isWithin (range : Int × Int) (n : Int) : Bool := range.1 ≤ n && n ≤ range.2

/-- The date and the time of day of a second. -/
def ofSecond (second : Int) (microsecond : Nat := 0) :
    Except Fault (Calendar.Date × Calendar.TimeOfDay) :=
  let date := Calendar.Date.ofDays (second.fdiv 86400)
  if !isWithin secondRange second then .error (.ofKind .overflow)
  else if !isWithin yearRange date.year then .error (.ofKind .system)
  else .ok (date, .ofSeconds (second.fmod 86400).toNat microsecond)

/-- A time to the microsecond, with a `T` between date and time of day. The day before it has to have a
date as well. -/
def precise (s : Stamp) : Except Fault String := do
  let (second, microsecond) ← microseconds s.time
  let (date, time) ← ofSecond second microsecond
  if let some problem := date.problem? then throw (.badValue problem)
  let (before, _) ← ofSecond (second - 86400)
  if let some problem := before.problem? then throw (.badValue problem)
  return date.text ++ "T" ++ time.text

/-- A time to the second, with a blank between date and time of day. -/
def brief (s : Stamp) : Except Fault String := do
  let (date, time) ← ofSecond (← second s.time)
  return date.briefText ++ " " ++ time.text

/-- The milliseconds since the last second before zero or after it. -/
def milliseconds (s : Stamp) : Except Fault Nat := do
  let (_, rest) ← split s.time
  return ((rest.mul (.ofInt 1000)).truncate?.getD 0).toNat

/-- A time to the millisecond, behind a comma. -/
def toMilliseconds (s : Stamp) : Except Fault String := do
  return (← s.brief) ++ "," ++ Calendar.padded 3 (← s.milliseconds)

end Stamp

/-- A log record. Levels without a name are possible. -/
structure LogRecord where
  stamp : Stamp
  level : Int
  logger : String
  message : String
  fields : Pairs := []
deriving Repr, Inhabited

namespace LogRecord

/-- Fields as texts, one after the other. -/
def listed (fields : Pairs) : String :=
  String.intercalate ", " (fields.map fun (k, v) => k.plain ++ "=" ++ v.plain)

/-- The members of a record as an object. A field with the name of another member replaces it. -/
def members (r : LogRecord) : Except Fault Pairs := do
  let time ← r.stamp.precise
  let own := Pairs.fields [
    ("timestamp", .str time), ("level", .str (LogLevel.nameOf r.level)), ("logger", .str r.logger),
    ("message", .str r.message)]
  return Pairs.update own r.fields

/-- The level and the message. -/
def headline (r : LogRecord) : String := "[" ++ LogLevel.nameOf r.level ++ "] " ++ r.message

/-- A record for people, who are spared the context. -/
def humanLine (r : LogRecord) : String :=
  let shown := Pairs.erase "context" r.fields
  r.headline ++ if shown.isEmpty then "" else " (" ++ listed shown ++ ")"

/-- A record with its time and place. -/
def debugLine (r : LogRecord) : Except Fault String := do
  let time ← r.stamp.brief
  let place := r.stamp.place
  let source := String.intercalate ":" [r.logger, place.module, place.function, toString place.line]
  let fields := if r.fields.isEmpty then "" else " | " ++ listed r.fields
  return time ++ " [" ++ LogLevel.nameOf r.level ++ "] " ++ source ++ " - " ++ r.message ++ fields

/-- A record in a format. -/
def render (r : LogRecord) : LogFormat → Except Fault String
  | .json => do Json.render .compact (.map (← r.members))
  | .human => .ok r.humanLine
  | .debug => r.debugLine

end LogRecord

end CaptureForest
