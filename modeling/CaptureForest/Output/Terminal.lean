import CaptureForest.Number.Integer
import CaptureForest.Text.LowerCase
/-!
# Terminals

What output needs to know about the place where it is shown: how wide lines may be, and whether colors
are understood.
-/

namespace CaptureForest

/-- A place for output, with what the environment tells about it. -/
structure Terminal where
  isInteractive : Bool := false
  kind : Option String := none
  noColor : Option String := none
  columns : Option String := none
deriving DecidableEq, Repr, Inhabited

namespace Terminal

def usualWidth : Nat := 80

/-- The width of lines: what the environment says, if that is a positive number. -/
def width (t : Terminal) : Nat :=
  match t.columns.bind Text.integer? with
  | some n => if n ≤ 0 then usualWidth else n.toNat
  | none => usualWidth

/-- Colors are for interactive terminals that are not dumb, unless they are not wanted. -/
def showsColors (t : Terminal) : Bool :=
  t.isInteractive && Text.lower (t.kind.getD "") != "dumb" && t.noColor.isNone

end Terminal

/-- What a part of the output is marked as. -/
inductive Emphasis where
  | strong
  | good
  | bad
  | caution
deriving DecidableEq, Repr

namespace Emphasis

/-- The sequence that switches a color on. -/
def code : Emphasis → String
  | .strong => "\x1b[1m"
  | .good => "\x1b[32m"
  | .bad => "\x1b[31m"
  | .caution => "\x1b[33m"

def reset : String := "\x1b[0m"

/-- A text with its color, where colors are shown. -/
def paint (colored : Bool) (e : Emphasis) (text : String) : String :=
  if colored then e.code ++ text ++ reset else text

end Emphasis

end CaptureForest
