import CaptureForest.Log.Level
/-!
# Progress messages

A message that an operation reports on its way, with its level and the part of the program it is from.
-/

namespace CaptureForest

structure LogMessage where
  level : LogLevel
  source : String
  text : String
deriving DecidableEq, Repr, Inhabited

end CaptureForest
