import CaptureForest.Value.Text
import CaptureForest.Pairs
/-!
# Grammars of command lines

What a command line may hold: options with their names and what they take, and one operand, which is a
file or a command with arguments of its own.
-/

namespace CaptureForest

namespace CommandLine

/-- What an option does: it asks for help, switches something on, or takes a value. Values may be of a
closed set of words, and may add up when the option is repeated. -/
inductive OptionKind where
  | help
  | switch
  | text
  | choice (words : List String)
  | choices (words : List String)
deriving DecidableEq, Repr, Inhabited

namespace OptionKind

def takesValue : OptionKind → Bool
  | .help | .switch => false
  | _ => true

/-- The words of a closed set. -/
def words? : OptionKind → Option (List String)
  | .choice words | .choices words => some words
  | _ => none

end OptionKind

/-- An option: its names, the argument that it sets, and the value without it. -/
structure OptionRule where
  names : List String
  argument : String
  kind : OptionKind
  absent : Value := .none
  help : String
deriving BEq, Repr, Inhabited

namespace OptionRule

/-- The option that every program has. -/
def forHelp : OptionRule where
  names := ["-h", "--help"]
  argument := "help"
  kind := .help
  help := "show this help message and exit"

/-- How an option is named in complaints. -/
def title (o : OptionRule) : String := String.intercalate "/" o.names

/-- What stands for the value of an option in help: its words, or its name in capitals. -/
def placeholder (o : OptionRule) : String :=
  match o.kind.words? with
  | some words => Value.braced (String.intercalate "," words)
  | none => String.ofList (o.argument.toList.map Char.toUpper)

end OptionRule

/-- The operand: how it is called, the parts that show it in usage lines, help, and the commands it may
name. -/
structure Operand where
  name : String
  shown : List String
  help : Option String := none
  commands : List (String × String) := []
deriving DecidableEq, Repr, Inhabited

/-- What the help of a program or of one of its commands tells. -/
structure Synopsis where
  program : String
  description : String
  options : List OptionRule
  operand : Operand
deriving BEq, Repr, Inhabited

/-- A command: its own options, and a file as its operand. -/
structure Command where
  name : String
  summary : String
  description : String
  options : List OptionRule
  operand : Operand
deriving BEq, Repr, Inhabited

/-- A program with commands. -/
structure Program where
  name : String
  description : String
  options : List OptionRule
  commands : List Command
deriving BEq, Repr, Inhabited

def withHelp (options : List OptionRule) : List OptionRule := .forHelp :: options

namespace Program

def commandOperand : String := "<command>"

def synopsis (p : Program) : Synopsis where
  program := p.name
  description := p.description
  options := withHelp p.options
  operand := {
    name := commandOperand
    shown := [commandOperand, "..."]
    commands := p.commands.map fun c => (c.name, c.summary) }

/-- The synopsis of a command of the program. -/
def synopsisOf (p : Program) (c : Command) : Synopsis where
  program := p.name ++ " " ++ c.name
  description := c.description
  options := withHelp c.options
  operand := c.operand

end Program

end CommandLine

end CaptureForest
