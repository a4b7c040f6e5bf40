/-!
# Output formats

The forms in which the result of a command is printed.
-/

namespace CaptureForest

inductive OutputFormat where
  | json
  | table
  | yaml
  | quiet
deriving DecidableEq, Repr, Inhabited

namespace OutputFormat

def all : List OutputFormat := [.json, .table, .yaml, .quiet]

def word : OutputFormat → String
  | .json => "json"
  | .table => "table"
  | .yaml => "yaml"
  | .quiet => "quiet"

def label : OutputFormat → String
  | .json => "JSON"
  | .table => "TABLE"
  | .yaml => "YAML"
  | .quiet => "QUIET"

def ofWord? (word : String) : Option OutputFormat := all.find? (·.word == word)

theorem ofWord?_word (f : OutputFormat) : ofWord? f.word = some f := by cases f <;> decide

end OutputFormat

end CaptureForest
