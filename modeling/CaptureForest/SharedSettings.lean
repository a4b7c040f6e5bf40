import CaptureForest.Settings
/-!
# Shared settings

The settings that all compilations of a process share unless they are given their own. They are made
when first needed, with a default type that the environment may name, and change only as asked.
-/

namespace CaptureForest

/-- The word of the environment for the default type, and the settings once they were made. -/
structure SharedSettings where
  environment : Option String := none
  current : Option Settings := none
deriving BEq, Repr, Inhabited

namespace Settings

/-- The name under which the environment holds the default type. -/
def environmentName : String := "DECLCAPTURE_DEFAULT_TYPE"

/-- Builds settings from named values; a default type that is not named comes from the environment. -/
def ofEnvironment (environment : Option String) (fields : Pairs) : Except Fault Settings :=
  match environment with
  | some word =>
    if word ≠ "" && !Pairs.contains "default_type" fields then
      ofFields (Pairs.insert (.str "default_type") (.str word) fields)
    else ofFields fields
  | none => ofFields fields

/-- The names of changes to settings that there are not, in order. -/
def unknownNames (changes : Pairs) : List String :=
  let named := (Pairs.keys changes).filterMap Value.text?
  (named.filter fun name => !names.contains name).mergeSort fun a b => decide (a ≤ b)

/-- The complaint about settings that there are not. -/
def unknown (names : List String) : CaptureError :=
  .configuration ("Unknown settings: " ++ String.intercalate ", " names) (names.headD "")

end Settings

namespace SharedSettings

/-- The shared settings, made if there are none yet. -/
def get (s : SharedSettings) : Except Fault (Settings × SharedSettings) :=
  match s.current with
  | some settings => .ok (settings, s)
  | none =>
    match Settings.ofEnvironment s.environment [] with
    | .ok settings => .ok (settings, { s with current := some settings })
    | .error e => .error e

/-- Replaces the named settings. Settings that had to be made for it stay even if a new value is
refused. -/
def configure (changes : Pairs) (s : SharedSettings) : Except Fault Settings × SharedSettings :=
  if (Pairs.keys changes).all Value.isText then
    match Settings.unknownNames changes with
    | [] =>
      match s.get with
      | .error e => (.error e, s)
      | .ok (settings, s) =>
        match settings.replace changes with
        | .error e => (.error e, s)
        | .ok settings => (.ok settings, { s with current := some settings })
    | names => (.error (.capture (Settings.unknown names)), s)
  else (.error .wrongType, s)

/-- Drops the settings; they are made again when next needed. -/
def reset (s : SharedSettings) : SharedSettings := { s with current := none }

/-- The settings of a compilation: its own ones or the shared ones. -/
def choose (own : Option Settings) (s : SharedSettings) : Except Fault (Settings × SharedSettings) :=
  match own with
  | some settings => .ok (settings, s)
  | none => s.get

end SharedSettings

end CaptureForest
