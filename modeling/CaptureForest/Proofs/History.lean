import CaptureForest.Registry.Dispatch
import CaptureForest.Registry.Search

/-!
# Histories of registries

What is done to a registry is an operation; a signal carries what its callbacks
do, which may be operations again.  A run performs operations one after another
and writes down what they are about: which hooks are registered and which pairs
of a phase and a key are removed.  What is written down does not depend on the
registry.  From this history alone follows what a map from pairs to their last
registrations would hold, since when, and which names it would know.
-/

namespace CaptureForest

/-- What a registry has at most one handler for. -/
structure HookPair where
  phase : HookPhase
  key : String
deriving DecidableEq, Repr

namespace HookPair

def handlerName (pair : HookPair) : String :=
  "declcapture-hook/" ++ pair.phase.word ++ "/" ++ pair.key

theorem toList_handlerName (pair : HookPair) :
    pair.handlerName.toList =
      "declcapture-hook/".toList ++ (pair.phase.word.toList ++ '/' :: pair.key.toList) := by
  change ("declcapture-hook/" ++ pair.phase.word ++ "/" ++ pair.key).toList = _
  simp

theorem slash_notMem_word (p : HookPhase) : '/' ∉ p.word.toList := by
  cases p <;> decide

theorem nameFor_str (pair : HookPair) :
    HookRegistration.nameFor pair.phase (.str pair.key) = pair.handlerName := by
  have hstart : HookRegistration.namePrefix ++ "/" = "declcapture-hook/" := by decide
  change HookRegistration.namePrefix ++ "/" ++ pair.phase.word ++ "/" ++ pair.key = _
  rw [hstart]
  rfl

/-- After the prefix the first slash of a name ends the phase, so slashes in keys
do no harm. -/
theorem handlerName_injective : Function.Injective handlerName := by
  intro ⟨p, k⟩ ⟨q, l⟩ h
  have hletters := congrArg String.toList h
  rw [toList_handlerName, toList_handlerName] at hletters
  have htails : p.word.toList ++ '/' :: k.toList = q.word.toList ++ '/' :: l.toList :=
    List.append_cancel_left hletters
  have htakeWhile : ∀ (r : HookPhase) (rest : List Char),
      (r.word.toList ++ '/' :: rest).takeWhile (· ≠ '/') = r.word.toList := by
    intro r rest
    have hword : ∀ c ∈ r.word.toList, decide (c ≠ '/') = true := by
      intro c hc
      rw [decide_eq_true_iff]
      rintro rfl
      exact slash_notMem_word r hc
    rw [List.takeWhile_append_of_pos hword]
    simp
  have hword : p.word.toList = q.word.toList := by
    rw [← htakeWhile p k.toList, htails, htakeWhile]
  obtain rfl := HookPhase.word_injective (String.toList_injective hword)
  have hkeys := List.append_cancel_left htails
  rw [List.cons.injEq] at hkeys
  rw [String.toList_injective hkeys.2]

end HookPair

/-- A registration whose phase is a member and whose key is a text. -/
structure KeyedHook where
  pair : HookPair
  callback : Value
  entryName : Value

namespace KeyedHook

def registration (hook : KeyedHook) : HookRegistration where
  key := .str hook.pair.key
  callback := hook.callback
  phase := .phase hook.pair.phase
  entryName := hook.entryName

def handler (hook : KeyedHook) : Handler where
  name := hook.pair.handlerName
  phase := hook.pair.phase
  registration := hook.registration

end KeyedHook

/-! ### Histories -/

inductive Event where
  | registered (hook : KeyedHook)
  | removed (isSelected : HookPair → Bool) (forget : Bool)
  | cleared

/-- The hook that was registered last for its pair, and the time at which the
pair became live. -/
structure Holding where
  since : Nat
  hook : KeyedHook

/-- Events, the latest first.  Each happened at the time that is the number of
the events before it. -/
abbrev History := List Event

namespace History

/-- What is held for a pair: the last registration since the pair was removed or
cleared.  A pair that is live stays live from the same time when it is registered
again. -/
def holding : History → HookPair → Option Holding
  | [], _ => none
  | .registered hook :: past, pair =>
    if hook.pair = pair then some ⟨((holding past pair).map (·.since)).getD past.length, hook⟩
    else holding past pair
  | .removed isSelected _ :: past, pair =>
    if isSelected pair then none else holding past pair
  | .cleared :: _, _ => none

def isLive (history : History) (pair : HookPair) : Bool := (history.holding pair).isSome

/-- Whether the name of a pair is known: the pair was registered since everything
was cleared, and has not been removed and forgotten since its last registration.
Only what is live is removed. -/
def isKnown : History → HookPair → Bool
  | [], _ => false
  | .registered hook :: past, pair => hook.pair = pair || isKnown past pair
  | .removed isSelected forget :: past, pair =>
    isKnown past pair && !(forget && isSelected pair && isLive past pair)
  | .cleared :: _, _ => false

end History

/-! ### Runs -/

/-- What is done to a registry.  A signal tells for each callback what that does
and whether it fails then.  A callback that was interrupted is one that does less
and fails, so what a callback finds on its way is the end of another run. -/
inductive Operation where
  | register (hook : KeyedHook)
  | registerAll (hooks : List KeyedHook)
  | remove (search : Except Fault Registry.KeySearch) (phases : PhaseSelector) (forget : Bool)
  | clear
  | dispatch (phase active : Value) (arguments : List Value) (named : Pairs)
      (body : Call → List Operation) (failure : Call → Option Fault)

structure Run where
  registry : Registry := {}
  history : History := []

/-- Whether a removal is about a pair: its phase is selected and the search finds its
key.  A search or a selection that is refused is about none. -/
def Registry.removes (search : Except Fault KeySearch) (phases : PhaseSelector) (pair : HookPair) :
    Bool :=
  match search, HookPhase.select phases with
  | .ok s, .ok chosen => chosen.contains pair.phase && (s.finds? (.str pair.key)).getD false
  | _, _ => false

namespace Run

def record (hooks : List KeyedHook) (history : History) : History :=
  hooks.foldl (fun past hook => .registered hook :: past) history

/-- A hook counts as registered if it can be called. -/
def register (hook : KeyedHook) (s : Run) : Run where
  registry :=
    match s.registry.register hook.registration with
    | .ok (_, r) => r
    | .error _ => s.registry
  history := if hook.callback.isCallable then .registered hook :: s.history else s.history

/-- The hooks of a batch count as registered if all of them can be called. -/
def registerAll (hooks : List KeyedHook) (s : Run) : Run where
  registry := (s.registry.registerAll (hooks.map (·.registration))).2
  history := if hooks.all (·.callback.isCallable) then record hooks s.history else s.history

def remove (search : Except Fault Registry.KeySearch) (phases : PhaseSelector) (forget : Bool)
    (s : Run) : Run where
  registry := (s.registry.removeBy search phases forget).2
  history := .removed (Registry.removes search phases) forget :: s.history

def clear (s : Run) : Run := ⟨Registry.clear, .cleared :: s.history⟩

end Run

mutual

/-- What an operation makes of a run.  A failing operation keeps what was done
before it failed. -/
def Operation.perform : Operation → Run → Run
  | .register hook, s => s.register hook
  | .registerAll hooks, s => s.registerAll hooks
  | .remove search phases forget, s => s.remove search phases forget
  | .clear, s => s.clear
  | .dispatch phase active arguments named body failure, s =>
    let run (call : Call) : Effect Run Unit := fun s =>
      (match failure call with
        | none => .ok ()
        | some e => .error e,
      Operation.performAll (body call) s)
    (s.registry.dispatch run phase active arguments named s).2
termination_by structural operation => operation

def Operation.performAll : List Operation → Run → Run
  | [], s => s
  | operation :: rest, s => Operation.performAll rest (operation.perform s)
termination_by structural operations => operations

end

end CaptureForest
