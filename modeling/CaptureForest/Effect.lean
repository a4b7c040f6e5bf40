import CaptureForest.Fault.Basic
/-!
# Effects

What runs inside of an operation of this library, such as the callback of a hook or a task whose time is
taken, may change a state and may fail. A failure keeps the changes that were made before it.
-/

namespace CaptureForest

/-- A computation that may change a state and may fail. -/
abbrev Effect (σ : Type) := ExceptT Fault (StateM σ)

namespace Pairs

/-- Refuses named values that are not under texts, or are under names with a use of their own. -/
def checkNames (taken : List String) (named : Pairs) : Except Fault Unit :=
  if (keys named).all fun name => name.isText && !name.isAmong taken then .ok ()
  else .error .wrongType

end Pairs

end CaptureForest
