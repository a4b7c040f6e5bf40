/-!
# Hook phases

The moments in the life of a capture at which a declared hook runs. Each phase is filled by one
attribute of a declaration, its slot, and corresponds to one hook variable of the host.
-/

namespace CaptureForest

inductive HookPhase where
  | mode
  | prepareFinalize
  | beforeFinalize
  | afterFinalize
deriving DecidableEq, Repr, Inhabited

namespace HookPhase

/-- All phases, in the order in which a capture passes through them. -/
def all : List HookPhase := [.mode, .prepareFinalize, .beforeFinalize, .afterFinalize]

/-- The word for a phase in messages and handler names. -/
def word : HookPhase → String
  | .mode => "mode"
  | .prepareFinalize => "prepare-finalize"
  | .beforeFinalize => "before-finalize"
  | .afterFinalize => "after-finalize"

/-- The name of a phase, in capitals. -/
def label : HookPhase → String
  | .mode => "MODE"
  | .prepareFinalize => "PREPARE_FINALIZE"
  | .beforeFinalize => "BEFORE_FINALIZE"
  | .afterFinalize => "AFTER_FINALIZE"

/-- The attribute of a declaration that holds the callback of a phase. -/
def slot : HookPhase → String
  | .mode => "hook"
  | phase => phase.word

/-- The hook variable of the host that runs in a phase. -/
def hostHook (phase : HookPhase) : String := "org-capture-" ++ phase.word ++ "-hook"

def ofWord? (word : String) : Option HookPhase := all.find? (·.word == word)

/-- Reads a phase by its word or by its slot. -/
def ofName? (name : String) : Option HookPhase :=
  if name = "hook" then some .mode else ofWord? name

theorem mem_all (p : HookPhase) : p ∈ all := by cases p <;> decide

theorem ofName?_word (p : HookPhase) : ofName? p.word = some p := by cases p <;> decide

theorem ofName?_slot (p : HookPhase) : ofName? p.slot = some p := by cases p <;> decide

theorem word_injective {p q : HookPhase} (h : p.word = q.word) : p = q := by
  have := ofName?_word p
  rw [h, ofName?_word q] at this
  exact (Option.some.inj this).symm

end HookPhase

end CaptureForest
