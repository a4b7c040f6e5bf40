import CaptureForest.Compile.Basic
import CaptureForest.Log.Message
/-!
# The hook registry

Handlers are registrations that were accepted, each under the name made of its phase and key. A registry
keeps the handlers that are live, in the order in which they became live, and the names it has seen.
A handler that takes the name of a live one also takes its place.
-/

namespace CaptureForest

structure Handler where
  name : String
  phase : HookPhase
  registration : HookRegistration
deriving BEq, Repr, Inhabited

namespace Handler

def key (h : Handler) : Value := h.registration.key

def callback (h : Handler) : Value := h.registration.callback

/-- Whether a handler is kept in the same place as another: in one phase and under one name. -/
def sharesSlot (h other : Handler) : Bool := h.phase == other.phase && h.name == other.name

def description (h : Handler) : Except Fault Value := h.registration.description

end Handler

/-- The live handlers of all phases, and all names that were registered and not forgotten. -/
structure Registry where
  handlers : List Handler := []
  names : List String := []
deriving BEq, Repr, Inhabited

namespace HookRegistration

def notCallable (r : HookRegistration) (phase : HookPhase) : CaptureError :=
  .invalidArgument
    ("Hook callback for " ++ r.entryName.quoted ++ " (" ++ phase.word ++ ") is not callable") "callback"

/-- The phase of a registration that names a known phase and can be called. -/
def check (r : HookRegistration) : Except Fault HookPhase :=
  match HookPhase.resolve r.phase with
  | .error e => .error e
  | .ok phase => if r.callback.isCallable then .ok phase else .error (.capture (r.notCallable phase))

end HookRegistration

namespace Registry

def size (r : Registry) : Nat := r.handlers.length

/-- Puts a handler in the place of the one that shares its slot, or else at the end. -/
def place (h : Handler) : List Handler → List Handler
  | [] => [h]
  | x :: rest => if x.sharesSlot h then h :: rest else x :: place h rest

def addName (name : String) (names : List String) : List String :=
  if names.contains name then names else names ++ [name]

/-- The registry with a handler added. -/
def insert (h : Handler) (r : Registry) : Registry where
  handlers := place h r.handlers
  names := addName h.name r.names

/-- Stores a registration that was checked, under its name. -/
def store (phase : HookPhase) (registration : HookRegistration) (r : Registry) :
    Except Fault (String × Registry) :=
  match registration.handlerName with
  | .ok name => .ok (name, r.insert ⟨name, phase, registration⟩)
  | .error e => .error e

/-- Stores registrations one after another. A failure keeps what was stored before it. -/
def storeAll : List (HookPhase × HookRegistration) → Registry → Except Fault (List String) × Registry
  | [], r => (.ok [], r)
  | (phase, registration) :: rest, r =>
    match r.store phase registration with
    | .error e => (.error e, r)
    | .ok (name, r) =>
      let (names, r) := storeAll rest r
      (names.map (name :: ·), r)

def checkAll : List HookRegistration → Except Fault (List (HookPhase × HookRegistration))
  | [] => .ok []
  | registration :: rest =>
    match registration.check with
    | .error e => .error e
    | .ok phase =>
      match checkAll rest with
      | .error e => .error e
      | .ok others => .ok ((phase, registration) :: others)

/-- Registers several hooks. All are checked before the first is stored. -/
def registerAll (registrations : List HookRegistration) (r : Registry) :
    Except Fault (List String) × Registry :=
  match checkAll registrations with
  | .error e => (.error e, r)
  | .ok checked => r.storeAll checked

/-- Registers one hook under the name that is returned. -/
def register (registration : HookRegistration) (r : Registry) : Except Fault (String × Registry) :=
  match registration.check with
  | .error e => .error e
  | .ok phase => r.store phase registration

/-- The live handlers of a phase. -/
def handlersIn (r : Registry) (phase : HookPhase) : List Handler := r.handlers.filter (·.phase == phase)

/-- The live handlers of the selected phases, phase by phase. -/
def select (r : Registry) (phases : PhaseSelector) : Except Fault (List Handler) :=
  match HookPhase.select phases with
  | .ok chosen => .ok (chosen.flatMap r.handlersIn)
  | .error e => .error e

def clear : Registry := {}

/-- Drops handlers, and their names as well if they are to be forgotten. -/
def drop (r : Registry) (gone : List Handler) (forget : Bool) : Registry where
  handlers := r.handlers.filter fun h => !gone.any h.sharesSlot
  names := if forget then r.names.filter fun name => !gone.any (·.name == name) else r.names

/-- Compiles declarations and registers their hooks; the records are returned. A failure of the
compilation leaves the registry alone. -/
def declare (plan : Plan) (forest : Value) (r : Registry) : Except Fault (List Value) × Registry :=
  match Compile.forest plan forest with
  | .error e => (.error e, r)
  | .ok c =>
    let (names, r) := r.registerAll c.hooks
    (names.map fun _ => c.records, r)

/-- The report that a handler was stored in a registry. -/
def report (r : Registry) (h : Handler) : LogMessage :=
  let verb := if r.handlers.any h.sharesSlot then "Replaced" else "Registered"
  ⟨.debug, "services.hook_registry", verb ++ " hook handler " ++ h.name ++ " on " ++ h.phase.hostHook⟩

/-- The reports from storing registrations one after another, up to the first that cannot be stored. -/
def reports : List (HookPhase × HookRegistration) → Registry → List LogMessage
  | [], _ => []
  | (phase, registration) :: rest, r =>
    match registration.handlerName with
    | .error _ => []
    | .ok name =>
      let h : Handler := ⟨name, phase, registration⟩
      r.report h :: reports rest (r.insert h)

/-- The reports from registering several hooks. -/
def trace (registrations : List HookRegistration) (r : Registry) : List LogMessage :=
  match checkAll registrations with
  | .error _ => []
  | .ok checked => reports checked r

end Registry

end CaptureForest
