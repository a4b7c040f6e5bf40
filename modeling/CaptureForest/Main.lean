import CaptureForest.CommandLine.Session
import CaptureForest.Yaml.Reader
import Std.Time.DateTime.Timestamp
/-!
# The program

The command line program: it finds its surroundings, runs, prints, and exits.
-/

open CaptureForest

namespace CaptureForest.CommandLine

/-- The variables of the environment that matter. -/
def variableNames : List String :=
  ["TERM", "NO_COLOR", "COLUMNS", "DECLCAPTURE_DEBUG", "DECLCAPTURE_LOG_LEVEL", Settings.environmentName]

def readEnvironment : IO (List (String × String)) :=
  variableNames.filterMapM fun name => do
    return (← IO.getEnv name).map fun value => (name, value)

/-- The tree with the one file that a run reads. -/
def readFile (path : String) : IO FileTree := do
  try
    let octets ← IO.FS.readBinFile path
    return { files := [(FileTree.segments path, octets.toList)] }
  catch
    | .permissionDenied .. => return FileTree.lock {} path
    | .inappropriateType .. => return FileTree.ofFiles [(path ++ "/listing", [])]
    | _ => return {}

/-- The file that the arguments name. -/
def fileOf (arguments : List String) : Option String :=
  match program.read arguments with
  | .ok found => (Pairs.get fileOperand.name found).text?.map FilePath.normalize
  | .error _ => none

/-- The time in seconds after the start of 1970. -/
def readClock : IO Binary64 := do
  let now ← Std.Time.Timestamp.now
  let nanoseconds := now.toNanosecondsSinceUnixEpoch.val
  return .ofRatio (nanoseconds < 0) nanoseconds.natAbs 1000000000

def readSurroundings (arguments : List String) : IO Surroundings := do
  let number ← IO.rand 0 (twoTo 32 - 1)
  return {
    environment := ← readEnvironment
    yaml := Yaml.reader
    files := ← match fileOf arguments with
      | some path => readFile path
      | none => pure {}
    isInteractive := ← (← IO.getStdout).isTty
    stamp := { time := ← readClock, place := { module := "logger", function := "write", line := 0 } }
    errorId := String.ofList (Text.hexDigits 8 number) }

end CaptureForest.CommandLine

def main (arguments : List String) : IO UInt32 := do
  let t := CommandLine.run (← CommandLine.readSurroundings arguments) arguments
  IO.print t.output
  IO.eprint t.errors
  return t.code.toNat.toUInt32
