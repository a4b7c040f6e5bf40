import CaptureForest.Text.Layout
/-!
# Wrapping text

Texts broken into lines of a width at their blanks. A word that is longer than a line is broken where the
line ends.
-/

namespace CaptureForest.Text

/-- The words of a text and the blanks between them, one after the other. -/
def chunks (s : String) : List (List Char) :=
  (((splitOnChar ' ' s).filter (· != "")).map String.toList).intersperse [' ']

def isBlankChunk (chunk : List Char) : Bool := chunk.all (· == ' ')

/-- The chunks that fit into a width, and those that do not. -/
def takeFitting (width : Nat) : List (List Char) → List (List Char) × List (List Char)
  | [] => ([], [])
  | chunk :: rest =>
    if chunk.length ≤ width then
      let (fitting, others) := takeFitting (width - chunk.length) rest
      (chunk :: fitting, others)
    else ([], chunk :: rest)

/-- The first line of a width, and the chunks behind it. A chunk too long for any line is cut. -/
def takeLine (width : Nat) (s : List (List Char)) : List (List Char) × List (List Char) :=
  let (fitting, rest) := takeFitting width s
  match rest with
  | chunk :: others =>
    if width < chunk.length then
      let space := width - fitting.flatten.length
      (fitting ++ [chunk.take space], chunk.drop space :: others)
    else (fitting, rest)
  | [] => (fitting, [])

/-- A line without the blank or the empty piece of a word at its end. -/
def closeLine (line : List (List Char)) : List (List Char) :=
  match line.getLast? with
  | some chunk => if isBlankChunk chunk then line.dropLast else line
  | none => line

/-- The lines of a number of turns. A blank at the start of a line other than the first is dropped. -/
def wrapChunks (width : Nat) (isFirst : Bool) : Nat → List (List Char) → List String
  | 0, _ => []
  | _, [] => []
  | turns + 1, chunk :: rest =>
    let s := if isBlankChunk chunk && !isFirst then rest else chunk :: rest
    let (line, rest) := takeLine width s
    let line := closeLine line
    if line.isEmpty then wrapChunks width isFirst turns rest
    else String.ofList line.flatten :: wrapChunks width false turns rest

/-- The lines of a text, none longer than a width that is not zero. -/
def wrap (width : Nat) (s : String) : List String :=
  wrapChunks width true (2 * s.length + 1) (chunks s)

end CaptureForest.Text
