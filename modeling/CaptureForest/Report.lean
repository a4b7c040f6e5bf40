import CaptureForest.Pairs
/-!
# Validation reports

What is found when a forest is checked: errors, warnings, suggestions, and the number of declarations
that were checked. A report stays valid until an error is added. Reports are joined part by part.
-/

namespace CaptureForest

/-- An error about one declaration, which is named by its path. -/
structure Problem where
  path : Value
  code : Value
  message : Value
  fix : Option Value
deriving BEq, Repr, Inhabited

/-- Something odd about one declaration that does not make it invalid. -/
structure Warning where
  path : Value
  code : Value
  message : Value
deriving BEq, Repr, Inhabited

structure Report where
  isValid : Bool := true
  errors : List Problem := []
  warnings : List Warning := []
  suggestions : List Value := []
  checked : Int := 0
deriving BEq, Repr, Inhabited

def Problem.toRecord (p : Problem) : Value :=
  .record <| [("field_name", p.path), ("error_code", p.code), ("message", p.message)] ++
    match p.fix with
    | some fix => [("suggested_fix", fix)]
    | none => []

def Warning.toRecord (w : Warning) : Value :=
  .record [("field_name", w.path), ("warning_code", w.code), ("message", w.message)]

namespace Report

def addError (r : Report) (p : Problem) : Report :=
  { r with errors := r.errors ++ [p], isValid := false }

def addWarning (r : Report) (w : Warning) : Report := { r with warnings := r.warnings ++ [w] }

def addSuggestion (r : Report) (s : Value) : Report := { r with suggestions := r.suggestions ++ [s] }

def addChecked (r : Report) (n : Int) : Report := { r with checked := r.checked + n }

def hasErrors (r : Report) : Bool := !r.errors.isEmpty

def hasWarnings (r : Report) : Bool := !r.warnings.isEmpty

/-- Adds everything that another report holds. The result is invalid if either report was, as far as
the other shows it by its errors. -/
def merge (r other : Report) : Report where
  isValid := r.isValid && !other.hasErrors
  errors := r.errors ++ other.errors
  warnings := r.warnings ++ other.warnings
  suggestions := r.suggestions ++ other.suggestions
  checked := r.checked + other.checked

def toRecord (r : Report) : Value :=
  .record [
    ("is_valid", .bool r.isValid),
    ("checked", .int r.checked),
    ("errors", .list (r.errors.map Problem.toRecord)),
    ("warnings", .list (r.warnings.map Warning.toRecord)),
    ("suggestions", .list r.suggestions)]

end Report

end CaptureForest
