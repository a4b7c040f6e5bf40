import CaptureForest.Declaration.Basic
import CaptureForest.Value.Describe
import CaptureForest.Fault.Basic
/-!
# Hook registrations

A request to run a callback in a phase while the entry with a key is active. A registration that comes
from a declaration names a phase of the closed set; one that is made by hand may hold any value in its
place, and shows only when the phase is needed that it is none.
-/

namespace CaptureForest

structure HookRegistration where
  key : Value
  callback : Value
  phase : Value
  entryName : Value
deriving BEq, Repr, Inhabited

namespace HookRegistration

/-- What the names of all handlers begin with. -/
def namePrefix : String := "declcapture-hook"

/-- The phase of a registration; a mere word for a phase will not do here. -/
def member (r : HookRegistration) : Except Fault HookPhase :=
  match r.phase with
  | .phase p => .ok p
  | _ => .error (.ofKind .missingAttribute)

def nameFor (phase : HookPhase) (key : Value) : String :=
  namePrefix ++ "/" ++ phase.word ++ "/" ++ key.plain

/-- The name of the handler, which holds the phase and the key. -/
def handlerName (r : HookRegistration) : Except Fault String :=
  match r.member with
  | .ok p => .ok (nameFor p r.key)
  | .error e => .error e

/-- The registration in structured output. -/
def description (r : HookRegistration) : Except Fault Value :=
  match r.member with
  | .error e => .error e
  | .ok p => .ok <| .record [
      ("handler", .str (nameFor p r.key)),
      ("keys", r.key),
      ("phase", .str p.word),
      ("host_hook", .str p.hostHook),
      ("entry", r.entryName.describe),
      ("callback", r.callback.describe)]

end HookRegistration

namespace Declaration

/-- One registration for each hook slot that is set, in the order of the phases. -/
def hooks (node : Declaration) (key : String) : List HookRegistration :=
  (HookPhase.all.filter fun p => node.sets p.slot).map fun p =>
    { key := .str key, callback := node.get p.slot, phase := .phase p, entryName := node.name }

end Declaration

end CaptureForest
