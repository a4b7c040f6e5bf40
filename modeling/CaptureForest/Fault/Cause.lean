import CaptureForest.Value.Text
/-!
# Causes of errors

What can be wrong with declarations, settings, arguments and files. A cause knows its family, the rule
it violates, its default code and its default advice, and what it adds to the context of an error.
-/

namespace CaptureForest

/-- What went wrong, with the values concerned. -/
inductive Cause where
  | general
  | user
  | configuration (setting : Value)
  | argument (name validValues : Value)
  | load (file : Option String)
  | declaration (name : Value)
  | missingKeys (name : Value)
  | parentShape (name : Value) (extra : List Value)
  | childrenShape (name : Value)
  | textOrTexts (name key value : Value)
  | hookTarget (phase : Value) (validPhases : List Value)
deriving BEq, Repr, Inhabited

namespace Cause

/-- The families to which a cause belongs, the narrowest first. -/
def families : Cause → List String
  | .general => ["DeclCaptureError"]
  | .user => ["UserError", "DeclCaptureError"]
  | .configuration _ => ["ConfigurationError", "UserError", "DeclCaptureError"]
  | .argument .. => ["InvalidArgumentError", "UserError", "DeclCaptureError"]
  | .load _ => ["DeclarationLoadError", "UserError", "DeclCaptureError"]
  | .declaration _ => ["DeclarationError", "UserError", "DeclCaptureError"]
  | .missingKeys _ => ["MissingKeysError", "DeclarationError", "UserError", "DeclCaptureError"]
  | .parentShape .. => ["InvalidParentShapeError", "DeclarationError", "UserError", "DeclCaptureError"]
  | .childrenShape _ => ["InvalidChildrenShapeError", "DeclarationError", "UserError", "DeclCaptureError"]
  | .textOrTexts .. => ["InvalidStringOrListError", "DeclarationError", "UserError", "DeclCaptureError"]
  | .hookTarget .. => ["UnresolvableHookTargetError", "UserError", "DeclCaptureError"]

/-- The name of the narrowest family. -/
def family (c : Cause) : String := c.families.headD ""

/-- The rule on declarations that is violated. -/
def rule? : Cause → Option String
  | .declaration _ => some "invalid declaration"
  | .missingKeys _ => some "keys must be a non-empty string"
  | .parentShape .. => some "a declaration with children may only carry name, keys and children"
  | .childrenShape _ => some "children must be a list of declarations"
  | .textOrTexts .. => some "value must be a string or a list of strings"
  | _ => none

/-- The code by which programs tell errors apart. -/
def code : Cause → String
  | .general | .user => "UNKNOWN_ERROR"
  | .configuration _ => "USER_CONFIG_INVALID"
  | .argument .. => "USER_INVALID_ARGUMENT"
  | .load _ => "USER_DECLARATION_LOAD"
  | .declaration _ => "USER_DECLARATION_INVALID"
  | .missingKeys _ => "USER_MISSING_KEYS"
  | .parentShape .. => "USER_INVALID_PARENT"
  | .childrenShape _ => "USER_INVALID_CHILDREN"
  | .textOrTexts .. => "USER_INVALID_STRING_OR_LIST"
  | .hookTarget .. => "USER_UNKNOWN_HOOK_PHASE"

/-- The advice given when nothing better is known. -/
def generalFix : String := "Check the declarations and try again"

def argumentFix (name : Value) (validValues : List String) : String :=
  "'" ++ name.plain ++ "' must be one of: " ++ String.intercalate ", " validValues

def hookTargetFix (validPhases : List String) : String :=
  "Use one of: " ++ String.intercalate ", " validPhases

/-- The advice that goes with a cause, unless it lists alternatives. -/
def fix : Cause → String
  | .general | .user | .declaration _ => generalFix
  | .configuration _ => "Check the configuration value and its allowed range"
  | .argument .. => "Check the arguments"
  | .load _ => "Make sure the file is valid JSON or YAML holding a list of declarations"
  | .missingKeys _ => "Add a non-empty 'keys' attribute to the declaration"
  | .parentShape .. => "Move the extra attributes onto the children"
  | .childrenShape _ => "Wrap the child declarations in a list"
  | .textOrTexts _ key _ => "Give '" ++ key.plain ++ "' a string or a list of strings"
  | .hookTarget _ validPhases => hookTargetFix (validPhases.filterMap Value.text?)

/-- What a cause adds to the context of an error, in order. -/
def contextFields : Cause → List (String × Value)
  | .general | .user | .load none => []
  | .configuration setting => if setting.isTruthy then [("setting", setting)] else []
  | .argument name validValues =>
    (if name.isTruthy then [("argument_name", name)] else []) ++
      (if validValues.isTruthy then [("valid_values", validValues)] else [])
  | .load (some file) => [("file_path", .str file)]
  | .declaration name => [("declaration", name), ("rule", .str "invalid declaration")]
  | .missingKeys name => [("declaration", name), ("rule", .str "keys must be a non-empty string")]
  | .parentShape name extra =>
    [("extra_attributes", .list extra), ("declaration", name),
      ("rule", .str "a declaration with children may only carry name, keys and children")]
  | .childrenShape name => [("declaration", name), ("rule", .str "children must be a list of declarations")]
  | .textOrTexts name key value =>
    [("attribute", key), ("value_type", .str value.typeName), ("declaration", name),
      ("rule", .str "value must be a string or a list of strings")]
  | .hookTarget phase validPhases =>
    [("phase", .str phase.plain), ("valid_phases", .list validPhases)]

/-- The values concerned, by name. -/
def subject : Cause → List (String × Value)
  | .general | .user => []
  | .configuration setting => [("setting", setting)]
  | .argument name validValues => [("argument_name", name), ("valid_values", validValues)]
  | .load file => [("file_path", match file with | some p => .path p | none => .none)]
  | .declaration name | .missingKeys name | .childrenShape name => [("declaration_name", name)]
  | .parentShape name extra => [("declaration_name", name), ("extra_attributes", .list extra)]
  | .textOrTexts name key _ => [("declaration_name", name), ("attribute", key)]
  | .hookTarget phase validPhases => [("phase", phase), ("valid_phases", .list validPhases)]

/-- The message about a declaration, which always names it. -/
def aboutDeclaration (name : Value) (detail : String) : String :=
  "Declaration " ++ name.quoted ++ ": " ++ detail

end Cause

end CaptureForest
