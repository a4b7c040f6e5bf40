import CaptureForest.Effect
import CaptureForest.Registry.Basic
/-!
# Signals

When the host signals a phase for the entry with a key, the callbacks of the handlers with that key run.
A callback may do anything to the state it runs in, the registry included, and it may fail: the handlers
are those that were live when the signal came, and a failure ends the signal.
-/

namespace CaptureForest

/-- What a callback is called with. -/
structure Call where
  callback : Value
  arguments : List Value := []
  named : Pairs := []
deriving Repr

namespace Handler

/-- Runs the callback if the handler has the active key, and tells whether it ran. -/
def signal {σ : Type} (run : Value → Effect σ Unit) (active : Value) (h : Handler) : Effect σ Bool :=
  if active.same h.key then do
    run h.callback
    return true
  else return false

end Handler

namespace Registry

/-- The names by which a signal passes what it is about. Named arguments of callbacks cannot use them. -/
def signalNames : List String := ["self", "phase", "active_key"]

/-- Refuses named arguments that cannot be passed on to callbacks. -/
def checkNamed (named : Pairs) : Except Fault Unit := Pairs.checkNames signalNames named

/-- Signals handlers one after another, and counts the callbacks that ran. -/
def signalAll {σ : Type} (run : Value → Effect σ Unit) (active : Value) : List Handler → Effect σ Nat
  | [] => return 0
  | h :: rest => do
    let ran ← h.signal run active
    let others ← signalAll run active rest
    return (if ran then others + 1 else others)

/-- Signals a phase to the handlers of the registry, whose callbacks get the arguments. -/
def dispatch {σ : Type} (r : Registry) (run : Call → Effect σ Unit) (phase active : Value)
    (arguments : List Value) (named : Pairs) : Effect σ Nat :=
  match checkNamed named with
  | .error e => throw e
  | .ok () =>
    match HookPhase.resolve phase with
    | .ok p => signalAll (fun callback => run ⟨callback, arguments, named⟩) active (r.handlersIn p)
    | .error e => throw e

end Registry

end CaptureForest
