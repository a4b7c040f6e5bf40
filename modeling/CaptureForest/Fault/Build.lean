import CaptureForest.Fault.Basic
import CaptureForest.FilePath
/-!
# Building errors from values

An error can be made from a list of values and a list of named values. Every family of errors has its own
parameters; what they leave over may set the code, the advice, the context, the wrapped fault, the
severity and the category.
-/

namespace CaptureForest

namespace ErrorBuilder

/-- Gives values to parameters, by place and then by name; what is left over is returned with them. A
parameter that gets two values, or values beyond the last parameter, are refused. -/
def bind (parameters : List String) (args : List Value) (named : Pairs) :
    Except Fault (Pairs × Pairs) :=
  if args.length > parameters.length then .error .wrongType
  else
    let byPlace := Pairs.fields (parameters.zip args)
    if byPlace.any fun pair => named.any fun other => other.1.same pair.1 then .error .wrongType
    else
      let byName := named.filter fun pair => pair.1.isAmong parameters
      .ok (byPlace ++ byName, named.filter fun pair => !pair.1.isAmong parameters)

/-- The options that every error has beside its message. -/
def optionNames : List String :=
  ["error_code", "suggested_fix", "context", "original_error", "severity", "category"]

/-- Gives an option a value unless it has one. -/
def setDefault (name : String) (value : Value) (options : Pairs) : Pairs :=
  if Pairs.contains name options then options else options ++ [(.str name, value)]

/-- The code of a cause and some advice, unless the options say otherwise. -/
def withDefaults (cause : Cause) (fix : String) (options : Pairs) : Pairs :=
  setDefault "error_code" (.str cause.code) (setDefault "suggested_fix" (.str fix) options)

/-- Sets fields of the context. A context that is no map cannot take them. -/
def extendContext (refusal : Fault) (fields : List (String × Value)) (options : Pairs) :
    Except Fault Pairs :=
  let options := setDefault "context" (.map []) options
  match Pairs.get "context" options with
  | .map context =>
      .ok (Pairs.insert (.str "context") (.map (Pairs.update context (Pairs.fields fields))) options)
  | _ => .error refusal

/-- Reads a word of a closed set. -/
def readWord {α : Type} (what : String) (all : List α) (word : α → String) (value : Value) :
    Except Fault α :=
  match all.find? fun a => value.isWord (word a) with
  | some a => .ok a
  | none => .error (.badValue (value.quoted ++ " is not a valid " ++ what))

/-- The error with a message and options; an option that is not known is refused. -/
def finish (cause : Cause) (message : Value) (options : Pairs) : Except Fault CaptureError := do
  if !(Pairs.keys options).all (·.isAmong optionNames) then throw .wrongType
  let fix := Pairs.get "suggested_fix" options
  let context := Pairs.get "context" options
  let wrapped := Pairs.get "original_error" options
  let severity ←
    match Pairs.lookup? "severity" options with
    | some v => readWord "ErrorSeverity" Severity.all Severity.word v
    | none => .ok .medium
  let category ←
    match Pairs.lookup? "category" options with
    | some v => readWord "ErrorCategory" Category.all Category.word v
    | none => .ok .internal
  return {
    cause, message, severity, category
    code := (Pairs.lookup? "error_code" options).getD (.str cause.code)
    fix := if fix.isTruthy then fix else .str Cause.generalFix
    context := if context.isTruthy then context else .map []
    wrapped := if wrapped.isTruthy then some { text := wrapped.plain } else none }

/-- An error of the user, with a message. -/
def finishUser (cause : Cause) (message : Value) (options : Pairs) : Except Fault CaptureError :=
  finish cause message (setDefault "category" (.str "user") options)

/-- An error about a declaration. -/
def finishDeclaration (cause : Cause) (name : Value) (detail : String) (options : Pairs) :
    Except Fault CaptureError := do
  let fields := [("declaration", name), ("rule", .str (CaptureError.rule cause))]
  let options ← extendContext .wrongType fields options
  finishUser cause (.str (Cause.aboutDeclaration name detail)) options

/-- The value of a parameter, which must be given. -/
def required (name : String) (given : Pairs) : Except Fault Value :=
  match Pairs.lookup? name given with
  | some v => .ok v
  | none => .error .wrongType

/-- The elements of a value that may be missing or empty. -/
def elementsOrNone (v : Value) : Except Fault (List Value) :=
  if v.isTruthy then
    match v.elements? with
    | some items => .ok items
    | none => .error .wrongType
  else .ok []

/-- The texts of values that are to be listed. -/
def listTexts (v : Value) : Except Fault (List String) :=
  match v.elements?.bind fun items => items.mapM Value.text? with
  | some texts => .ok texts
  | none => .error .wrongType

/-- An error of no special family; all its options have places. -/
def general (args : List Value) (named : Pairs) : Except Fault CaptureError := do
  let (given, rest) ← bind ("message" :: optionNames) args named
  if !rest.isEmpty then throw .wrongType
  finish .general (← required "message" given) (Pairs.erase "message" given)

/-- An error of the user of no special family. -/
def user (args : List Value) (named : Pairs) : Except Fault CaptureError := do
  let (given, options) ← bind ["message"] args named
  finishUser .user (← required "message" given) options

/-- An error about a setting. -/
def configuration (args : List Value) (named : Pairs) : Except Fault CaptureError := do
  let missing := Fault.ofKind .missingAttribute
  let (given, options) ← bind ["message", "setting"] args named
  let message ← required "message" given
  let cause := Cause.configuration (Pairs.get "setting" given)
  let options := withDefaults cause cause.fix options
  let options ←
    if cause.contextFields.isEmpty then .ok options else extendContext missing cause.contextFields options
  finishUser cause message options

/-- An error about an argument, with its valid values if they are known. -/
def argument (args : List Value) (named : Pairs) : Except Fault CaptureError := do
  let (given, options) ← bind ["message", "argument_name", "valid_values"] args named
  let message ← required "message" given
  let name := Pairs.get "argument_name" given
  let validValues := Pairs.get "valid_values" given
  let validValues := if validValues.isTruthy then validValues else .list []
  let cause := Cause.argument name validValues
  let fix ←
    if name.isTruthy && validValues.isTruthy then
      (listTexts validValues).map fun words => Cause.argumentFix name words
    else .ok cause.fix
  let options := withDefaults cause fix options
  let options ←
    if cause.contextFields.isEmpty then .ok (setDefault "context" (.map []) options)
    else extendContext .wrongType cause.contextFields options
  finishUser cause message options

/-- An error about a declaration file. -/
def load (args : List Value) (named : Pairs) : Except Fault CaptureError := do
  let missing := Fault.ofKind .missingAttribute
  let (given, options) ← bind ["message", "file_path"] args named
  let message ← required "message" given
  let file := Pairs.get "file_path" given
  let file ←
    if !file.isTruthy then .ok none
    else match file with
      | .path p => .ok (some p)
      | v => if v.isText then .ok (some (FilePath.normalize v.plain)) else .error .wrongType
  let cause := Cause.load file
  let options := withDefaults cause cause.fix options
  let options ←
    if cause.contextFields.isEmpty then .ok options else extendContext missing cause.contextFields options
  finishUser cause message options

/-- An error about a declaration. -/
def declaration (args : List Value) (named : Pairs) : Except Fault CaptureError := do
  let (given, options) ← bind ["message", "declaration_name"] args named
  let message ← required "message" given
  let name := Pairs.get "declaration_name" given
  let cause := Cause.declaration name
  finishDeclaration cause name message.plain (setDefault "error_code" (.str cause.code) options)

/-- An error about a declaration without keys. -/
def missingKeys (args : List Value) (named : Pairs) : Except Fault CaptureError := do
  let (given, options) ← bind ["declaration_name"] args named
  let name := Pairs.get "declaration_name" given
  let cause := Cause.missingKeys name
  let options := withDefaults cause cause.fix options
  finishDeclaration cause name (CaptureError.rule cause) options

/-- An error about a parent with attributes of its own. -/
def parentShape (args : List Value) (named : Pairs) : Except Fault CaptureError := do
  let (given, options) ← bind ["declaration_name", "extra_attributes"] args named
  let name := Pairs.get "declaration_name" given
  let extra ← elementsOrNone (Pairs.get "extra_attributes" given)
  let cause := Cause.parentShape name extra
  let options := withDefaults cause cause.fix options
  let options ← extendContext .wrongType [("extra_attributes", .list extra)] options
  let found ←
    if extra.isEmpty then .ok ""
    else (listTexts (.list extra)).map fun words => " (found: " ++ String.intercalate ", " words ++ ")"
  finishDeclaration cause name (CaptureError.rule cause ++ found) options

/-- An error about children that are no declarations. -/
def childrenShape (args : List Value) (named : Pairs) : Except Fault CaptureError := do
  let (given, options) ← bind ["declaration_name", "detail"] args named
  let name := Pairs.get "declaration_name" given
  let detail := Pairs.get "detail" given
  let cause := Cause.childrenShape name
  let options := withDefaults cause cause.fix options
  let shown := if detail.isTruthy then " (" ++ detail.plain ++ ")" else ""
  finishDeclaration cause name (CaptureError.rule cause ++ shown) options

/-- An error about an attribute that must hold a text or texts. -/
def textOrTexts (args : List Value) (named : Pairs) : Except Fault CaptureError := do
  let (given, options) ← bind ["declaration_name", "attribute", "value"] args named
  let name := Pairs.get "declaration_name" given
  let key := Pairs.get "attribute" given
  let value := Pairs.get "value" given
  let cause := Cause.textOrTexts name key value
  let options := withDefaults cause cause.fix options
  let options ←
    extendContext .wrongType [("attribute", key), ("value_type", .str value.typeName)] options
  finishDeclaration cause name
    ("'" ++ key.plain ++ "' " ++ CaptureError.rule cause ++ ", got " ++ value.typeName) options

/-- An error about a hook phase that is not known. -/
def hookTarget (args : List Value) (named : Pairs) : Except Fault CaptureError := do
  let missing := Fault.ofKind .missingAttribute
  let (given, options) ← bind ["phase", "valid_phases"] args named
  let phase ← required "phase" given
  let validPhases ← elementsOrNone (Pairs.get "valid_phases" given)
  let fix ← (listTexts (.list validPhases)).map Cause.hookTargetFix
  let cause := Cause.hookTarget phase validPhases
  let options := withDefaults cause fix options
  let options ← extendContext missing cause.contextFields options
  finishUser cause (.str ("Hook phase " ++ phase.quoted ++ " does not map to a known host hook")) options

/-- Builds an error of the family with the given name. -/
def build (family : String) (args : List Value) (named : Pairs) : Except Fault CaptureError :=
  match family with
  | "DeclCaptureError" => general args named
  | "UserError" => user args named
  | "ConfigurationError" => configuration args named
  | "InvalidArgumentError" => argument args named
  | "DeclarationLoadError" => load args named
  | "DeclarationError" => declaration args named
  | "MissingKeysError" => missingKeys args named
  | "InvalidParentShapeError" => parentShape args named
  | "InvalidChildrenShapeError" => childrenShape args named
  | "InvalidStringOrListError" => textOrTexts args named
  | "UnresolvableHookTargetError" => hookTarget args named
  | _ => .error .wrongType

end ErrorBuilder

namespace CaptureError

/-- The error with one more field of context. -/
def addContext (e : CaptureError) (key value : Value) : Except Fault CaptureError :=
  match e.context with
  | .map context => .ok { e with context := .map (Pairs.insert key value context) }
  | _ => .error .wrongType

end CaptureError

end CaptureForest
