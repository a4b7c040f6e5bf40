/-!
# Entry types

The kinds of capture entry that a leaf declaration produces.
-/

namespace CaptureForest

inductive EntryType where
  | entry
  | item
  | checkitem
  | tableLine
  | plain
deriving DecidableEq, Repr, Inhabited

namespace EntryType

/-- All entry types, in the order in which messages list them. -/
def all : List EntryType := [.entry, .item, .checkitem, .tableLine, .plain]

/-- The word for a type in declarations and records. -/
def word : EntryType → String
  | .entry => "entry"
  | .item => "item"
  | .checkitem => "checkitem"
  | .tableLine => "table-line"
  | .plain => "plain"

/-- The name of a type, in capitals. -/
def label : EntryType → String
  | .entry => "ENTRY"
  | .item => "ITEM"
  | .checkitem => "CHECKITEM"
  | .tableLine => "TABLE_LINE"
  | .plain => "PLAIN"

def ofWord? (word : String) : Option EntryType := all.find? (·.word == word)

theorem ofWord?_word (t : EntryType) : ofWord? t.word = some t := by cases t <;> decide

end EntryType

end CaptureForest
