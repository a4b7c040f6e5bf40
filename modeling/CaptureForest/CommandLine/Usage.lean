import CaptureForest.CommandLine.Grammar
import CaptureForest.Text.Wrap
/-!
# Usage and help

The usage line of a program, broken where it is too long, and the help that explains operands and options
in two columns.
-/

namespace CaptureForest

namespace CommandLine

/-- The width of usage and help on a terminal: two columns stay free. -/
def helpWidth (columns : Nat) : Int := (columns : Int) - 2

/-- An option as usage lines show it: by its first name, in brackets as it may be left out. -/
def OptionRule.usage (o : OptionRule) : String :=
  let value := if o.kind.takesValue then " " ++ o.placeholder else ""
  "[" ++ o.names.headD "" ++ value ++ "]"

/-- An option as help shows it: all names, each with the value if there is one. -/
def OptionRule.invocation (o : OptionRule) : String :=
  String.intercalate ", " <| o.names.map fun name =>
    if o.kind.takesValue then name ++ " " ++ o.placeholder else name

def blanks (n : Nat) : String := Text.repeated n ' '

/-- Puts parts on lines, the first of which has less room. -/
def fillLines (width : Int) (indent : Nat) : List String → Int → List String → List (List String)
  | line, _, [] => if line.isEmpty then [] else [line]
  | line, length, part :: rest =>
    if length + 1 + part.length > width && !line.isEmpty then
      line :: fillLines width indent [part] ((indent : Int) + part.length) rest
    else fillLines width indent (line ++ [part]) (length + part.length + 1) rest

def joined (parts : List String) : String := String.intercalate " " parts

/-- Parts on lines with an indentation. -/
def indented (width : Int) (indent : Nat) (parts : List String) : List String :=
  (fillLines width indent [] ((indent : Int) - 1) parts).map fun line => blanks indent ++ joined line

/-- Parts on lines with an indentation, the first line following a text of a length. -/
def hanging (width : Int) (indent start : Nat) (parts : List String) : List String :=
  match fillLines width indent [] ((start : Int) - 1) parts with
  | [] => []
  | line :: rest => joined line :: rest.map fun line => blanks indent ++ joined line

namespace Synopsis

def usageMark : String := "usage: "

/-- The lines of a usage that does not fit on one. A long name of the program has a line of its own. -/
def usageLines (width : Int) (s : Synopsis) : List String :=
  let options := s.options.map OptionRule.usage
  let start := usageMark.length + s.program.length
  if 4 * (start : Int) ≤ 3 * width then
    hanging width (start + 1) usageMark.length (s.program :: options) ++
      indented width (start + 1) s.operand.shown
  else
    let together := indented width usageMark.length (options ++ s.operand.shown)
    s.program ::
      if together.length > 1 then
        indented width usageMark.length options ++ indented width usageMark.length s.operand.shown
      else together

/-- The usage of a program, with its line end. -/
def usage (width : Int) (s : Synopsis) : String :=
  let line := joined (s.program :: s.options.map OptionRule.usage ++ s.operand.shown)
  if ((usageMark.length + line.length : Nat) : Int) > width then
    usageMark ++ String.intercalate "\n" (usageLines width s) ++ "\n"
  else usageMark ++ line ++ "\n"

/-! ### Help -/

/-- A line of help: how deep it stands, what it explains, and the explanation. -/
structure Item where
  indent : Nat
  term : String
  help : Option String

def operandItems (o : Operand) : List Item :=
  ⟨2, o.name, o.help⟩ :: o.commands.map fun c => ⟨4, c.1, some c.2⟩

def optionItems (options : List OptionRule) : List Item :=
  options.map fun o => ⟨2, o.invocation, some o.help⟩

def atLeastEleven (width : Int) : Nat := (max width 11).toNat

/-- Where explanations begin: behind the longest term, but not beyond a limit. -/
def column (width : Int) (s : Synopsis) : Nat :=
  let terms := s.operand.name :: s.operand.commands.map (·.1) ++ s.options.map OptionRule.invocation
  let longest := (terms.map String.length).foldl max 0
  min (longest + 4) (min 24 (max (width - 20) 4).toNat)

/-- The lines of an item. A term that is too long for its column has a line of its own. -/
def itemLines (width : Int) (column : Nat) (item : Item) : List String :=
  let head := blanks item.indent ++ item.term
  match item.help with
  | none => [head]
  | some help =>
    let lines := Text.wrap (atLeastEleven (width - column)) help
    if ((item.indent + item.term.length + 2 : Nat) : Int) ≤ column then
      (Text.padRight column head ++ lines.headD "") :: (lines.drop 1).map (blanks column ++ ·)
    else head :: lines.map (blanks column ++ ·)

def sectionLines (width : Int) (column : Nat) (title : String) (items : List Item) : List String :=
  (title ++ ":") :: items.flatMap (itemLines width column)

/-- The help of a program: usage, description, operands and options. -/
def help (width : Int) (s : Synopsis) : String :=
  let column := s.column width
  let parts := [
    Text.wrap (atLeastEleven width) s.description,
    sectionLines width column "positional arguments" (operandItems s.operand),
    sectionLines width column "options" (optionItems s.options)]
  String.join (s.usage width :: parts.map fun lines => "\n" ++ String.intercalate "\n" lines ++ "\n")

end Synopsis

end CommandLine

end CaptureForest
