/-!
# Orders on siblings

Names of the orders by which lists of declarations can be sorted.
-/

namespace CaptureForest

inductive SiblingOrder where
  | nameUp
  | nameDown
  | keysUp
  | keysDown
  | nameLength
  | leavesFirst
  | fewerAttributes
  | plainKeys
  | never
  | refusing
deriving DecidableEq, Repr, Inhabited

namespace SiblingOrder

def all : List SiblingOrder :=
  [.nameUp, .nameDown, .keysUp, .keysDown, .nameLength, .leavesFirst, .fewerAttributes, .plainKeys,
    .never, .refusing]

/-- The word by which settings name an order. -/
def word : SiblingOrder → String
  | .nameUp => "name<"
  | .nameDown => "name>"
  | .keysUp => "keys<"
  | .keysDown => "keys>"
  | .nameLength => "len(name)<"
  | .leavesFirst => "leaf-first"
  | .fewerAttributes => "attrs<"
  | .plainKeys => "raw-keys<"
  | .never => "never"
  | .refusing => "raise"

def ofWord? (word : String) : Option SiblingOrder := all.find? (·.word == word)

theorem ofWord?_word (o : SiblingOrder) : ofWord? o.word = some o := by cases o <;> decide

end SiblingOrder

end CaptureForest
