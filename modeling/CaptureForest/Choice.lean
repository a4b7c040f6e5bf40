import CaptureForest.OutputFormat
import CaptureForest.Fault.Basic
/-!
# Reading words

How entry types, hook phases and output formats are read from values, and how a selection of several
phases is read. A value that is no known word is refused with the list of the words.
-/

namespace CaptureForest

/-- The complaint about a value that is none of the known words. -/
def unknownWord (what : String) (value : Value) (words : List String) : Fault :=
  .badValue
    ("Invalid " ++ what ++ " '" ++ value.plain ++ "'. Valid values: " ++ (Value.ofStrings words).quoted)

/-- Looks the text of a value up, refusing all that is not found. -/
def chooseWord {α : Type} (what : String) (words : List String) (find : String → Option α)
    (value : Value) : Except Fault α :=
  match value.text?.bind find with
  | some choice => .ok choice
  | none => .error (unknownWord what value words)

namespace EntryType

def words : List String := all.map word

def ofValue : Value → Except Fault EntryType := chooseWord "entry type" words ofWord?

end EntryType

/-- What phases are selected by: a value, or something else that can be gone through, such as a set or a
class of words, which is given by the items that it yields. Some things can be gone through once only. -/
inductive PhaseSelector where
  | value (v : Value)
  | each (items : List Value)
  | once (items : List Value)
deriving Repr

namespace PhaseSelector

instance : Coe Value PhaseSelector := ⟨.value⟩

/-- What is left of a selector that was gone through. -/
def spent : PhaseSelector → PhaseSelector
  | .once _ => .once []
  | selector => selector

end PhaseSelector

namespace HookPhase

def words : List String := all.map word

/-- Reads a phase by its word or by its slot. -/
def ofValue : Value → Except Fault HookPhase := chooseWord "hook phase" words ofName?

/-- The phase that a registration or a signal names. -/
def resolve (value : Value) : Except Fault HookPhase :=
  match value.text?.bind ofName? with
  | some phase => .ok phase
  | none => .error (.capture (.hookTarget value words))

/-- Adds a phase to a selection unless it is there already. -/
def addTo (phases : List HookPhase) (phase : HookPhase) : List HookPhase :=
  if phases.contains phase then phases else phases ++ [phase]

def resolveEach (phases : List HookPhase) : List Value → Except Fault (List HookPhase)
  | [] => .ok phases
  | item :: rest =>
    match resolve item with
    | .ok phase => resolveEach (addTo phases phase) rest
    | .error e => .error e

/-- The phases that a selector names, each once: no value and the word `all` select every phase, any
other text one phase, and what can be gone through the phases of its items. -/
def select : PhaseSelector → Except Fault (List HookPhase)
  | .value .none => .ok all
  | .value v =>
    match v.text? with
    | some text => if text = "all" then .ok all else resolveEach [] [v]
    | none =>
      match v.elements? with
      | some items => resolveEach [] items
      | none => .error .wrongType
  | .each items | .once items => resolveEach [] items

end HookPhase

namespace OutputFormat

def words : List String := all.map word

def ofValue : Value → Except Fault OutputFormat := chooseWord "output format" words ofWord?

end OutputFormat

end CaptureForest
