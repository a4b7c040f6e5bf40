import CaptureForest.Log.Entry
import CaptureForest.Log.Record
import CaptureForest.Log.Rotation
/-!
# Loggers

A logger has a name and settings: from which level on entries count, and whether they go to the console,
to a file for each channel, or both. Loggers of one name share their settings, the latest counting. One
logger of a process is shared by all who do not have their own.
-/

namespace CaptureForest

structure LogSettings where
  name : String := "declcapture"
  level : LogLevel := .info
  format : LogFormat := .human
  toConsole : Bool := true
  toFiles : Bool := false
  rotation : Rotation := {}
deriving DecidableEq, Repr, Inhabited

namespace LogSettings

/-- Whether the entries of a channel are shown on the console. Times never are. -/
def showsOnConsole (s : LogSettings) (c : LogChannel) : Bool := s.toConsole && c != .timing

/-- The format on the console, where objects are not for reading. -/
def consoleFormat (s : LogSettings) : LogFormat := if s.format = .debug then .debug else .human

def channelName (s : LogSettings) (c : LogChannel) : String := s.name ++ "." ++ c.word

/-- How many places the entries of a channel are written to. -/
def outletCount (s : LogSettings) (c : LogChannel) : Nat := s.toFiles.toNat + (s.showsOnConsole c).toNat

def fileName (c : LogChannel) : String := c.word ++ ".log"

end LogSettings

/-- The loggers of a process: their settings by name, the name of the shared one, and what they wrote. -/
structure Logging where
  stamp : Stamp
  settings : List LogSettings := []
  shared : Option String := none
  files : LogFiles := {}
  console : String := ""
deriving Repr, Inhabited

namespace Logging

def find? (l : Logging) (name : String) : Option LogSettings := l.settings.find? (·.name == name)

/-- Makes a logger, which takes the place of one with its name. -/
def install (s : LogSettings) (l : Logging) : Logging :=
  { l with settings := s :: l.settings.filter (·.name != s.name) }

/-- Makes a logger and lets it be the shared one. -/
def share (s : LogSettings) (l : Logging) : Logging :=
  { l.install s with shared := some s.name }

/-- The name of the shared logger, which is made if there is none. -/
def getShared (l : Logging) : String × Logging :=
  match l.shared with
  | some name => (name, l)
  | none => let s : LogSettings := {}; (s.name, l.share s)

def print (text : String) (l : Logging) : Logging := { l with console := l.console ++ text }

def record (l : Logging) (s : LogSettings) (e : LogEntry) : LogRecord where
  stamp := l.stamp
  level := e.level.number
  logger := s.channelName e.channel
  message := e.message
  fields := e.fields

/-- Writes a record to the file of its channel. A record that cannot be written is dropped. -/
def toFile (s : LogSettings) (c : LogChannel) (r : LogRecord) (l : Logging) : Logging :=
  match r.render s.format with
  | .ok line => { l with files := l.files.append s.rotation (LogSettings.fileName c) (line ++ "\n") }
  | .error _ => l

def toConsole (s : LogSettings) (r : LogRecord) (l : Logging) : Logging :=
  match r.render s.consoleFormat with
  | .ok line => l.print (line ++ "\n")
  | .error _ => l

/-- Writes an entry to all outlets of its channel. Where there are none, the message of a warning or worse
still reaches the console. -/
def write (s : LogSettings) (e : LogEntry) (l : Logging) : Logging :=
  let r := l.record s e
  if s.outletCount e.channel = 0 then
    if e.level.atLeast .warning then l.print (e.message ++ "\n") else l
  else
    let l := if s.toFiles then l.toFile s e.channel r else l
    if s.showsOnConsole e.channel then l.toConsole s r else l

/-- Hands an entry to the logger with a name. -/
def emit (name : String) (e : LogEntry) (l : Logging) : Logging :=
  match l.find? name with
  | some s => if e.level.atLeast s.level then l.write s e else l
  | none => l

end Logging

end CaptureForest
