import CaptureForest.Registry.Basic
import CaptureForest.Pattern.Reader
/-!
# Searching the registry

Handlers are found by a search in their keys and by their phases. What is found is removed the same way
and then deleted, handler by handler.
-/

namespace CaptureForest

namespace Registry

/-- What is searched for in keys: texts that pass a test, or byte strings. -/
inductive KeySearch where
  | inTexts (test : String → Bool)
  | inBytes (test : List UInt8 → Bool)

/-- Whether a key is found, if it is of the kind that is searched for. -/
def KeySearch.finds? : KeySearch → Value → Option Bool
  | .inTexts test, key => key.text?.map test
  | .inBytes test, .bytes key => some (test key)
  | .inBytes _, _ => none

/-- The search for the pattern that a value stands for: no value and an empty text occur in every key
that is a text. -/
def readPattern (value : Value) : Except Fault KeySearch :=
  let read (source : String) : Except Pattern.ReadFault Pattern → Except Fault Pattern
    | .ok pattern => .ok pattern
    | .error .tooManyRepetitions => .error (.ofKind .overflow)
    | .error fault => .error <| .capture <|
        .invalidArgument ("Invalid key pattern " ++ value.quoted ++ ": " ++ fault.text source) "pattern"
  if value.isTruthy then
    match value with
    | .bytes octets => do
      let source := Text.ofOctets octets
      let pattern ← read source (Pattern.ofByteText source)
      return .inBytes fun key => pattern.occursIn (Text.ofOctets key)
    | _ =>
      match value.text? with
      | none => .error .wrongType
      | some source => do
        let pattern ← read source (Pattern.ofString source)
        return .inTexts pattern.occursIn
  else .ok (.inTexts Pattern.empty.occursIn)

/-- The handlers with keys that a search finds. A key that cannot be searched is a failure. -/
def matching (search : KeySearch) : List Handler → Except Fault (List Handler)
  | [] => .ok []
  | h :: rest =>
    match search.finds? h.key with
    | none => .error .wrongType
    | some isFound =>
      match matching search rest with
      | .error e => .error e
      | .ok others => .ok (if isFound then h :: others else others)

/-- The handlers of the selected phases with keys that a search finds, unless the search is refused. -/
def findBy (r : Registry) (search : Except Fault KeySearch) (phases : PhaseSelector) :
    Except Fault (List Handler) :=
  match search with
  | .error e => .error e
  | .ok search =>
    match r.select phases with
    | .error e => .error e
    | .ok chosen => matching search chosen

/-- The handlers of the selected phases in whose keys a pattern occurs. -/
def find (r : Registry) (pattern : Value) (phases : PhaseSelector) : Except Fault (List Handler) :=
  r.findBy (readPattern pattern) phases

/-- Deletes a handler in the phase of its registration and under its name, where it has to be. -/
def delete (forget : Bool) (h : Handler) (r : Registry) : Except Fault Registry :=
  match h.registration.member with
  | .error e => .error e
  | .ok phase =>
    let place := { h with phase }
    if r.handlers.any place.sharesSlot then .ok (r.drop [place] forget)
    else .error (.host { kind := .key, arguments := [.str h.name] })

/-- Deletes handlers one after another and lists their names. A failure keeps what was deleted before
it. -/
def deleteEach (forget : Bool) : List Handler → Registry → Except Fault (List String) × Registry
  | [], r => (.ok [], r)
  | h :: rest, r =>
    match r.delete forget h with
    | .error e => (.error e, r)
    | .ok r =>
      let (names, r) := deleteEach forget rest r
      (names.map (h.name :: ·), r)

/-- Deletes what a search finds. -/
def removeBy (r : Registry) (search : Except Fault KeySearch) (phases : PhaseSelector) (forget : Bool) :
    Except Fault (List String) × Registry :=
  match r.findBy search phases with
  | .error e => (.error e, r)
  | .ok gone => deleteEach forget gone r

/-- Removes the handlers in whose keys a pattern occurs, and returns their names. -/
def remove (r : Registry) (pattern : Value) (phases : PhaseSelector) (forget : Bool) :
    Except Fault (List String) × Registry :=
  r.removeBy (readPattern pattern) phases forget

end Registry

end CaptureForest
