import CaptureForest.Fault.Basic
import CaptureForest.Number.Binary64
import CaptureForest.Output.Terminal
/-!
# Tables

Rows of cells under headers. A column is as wide as its widest cell. If the table is wider than allowed,
all columns shrink in proportion, but to no less than eight characters, and what does not fit into a
column is cut.
-/

namespace CaptureForest

namespace Table

/-- The text without its last characters, so many that a number of them is left, or as many as the
number is below zero. -/
def takeUpTo (n : Int) (s : List Char) : List Char :=
  if 0 ≤ n then s.take n.toNat else s.take (s.length - n.natAbs)

def ellipsis : String := "..."

/-- The text, or its beginning followed by dots if it is longer than a limit. -/
def cut (limit : Int) (text : String) : String :=
  if (text.length : Int) ≤ limit then text
  else String.ofList (takeUpTo (limit - 3) text.toList) ++ ellipsis

def cutTo (width : Nat) (text : String) : String := cut width text

/-- Widens columns to the cells of a row, which has no more cells than there are columns. -/
def widen : List Nat → List String → Except Fault (List Nat)
  | widths, [] => .ok widths
  | [], _ :: _ => .error (.ofKind .index)
  | w :: widths, cell :: cells =>
    match widen widths cells with
    | .ok rest => .ok (max w cell.length :: rest)
    | .error e => .error e

/-- The widths that the headers and all cells need. -/
def naturalWidths (headers : List String) (rows : List (List String)) : Except Fault (List Nat) :=
  rows.foldlM widen (headers.map String.length)

def leastWidth : Nat := 8

/-- The width of all columns without what is between them. -/
def columnsWidth (widths : List Nat) : Nat := widths.foldr Nat.add 0

/-- The width of a table: its columns and three characters from one column to the next. -/
def totalWidth (widths : List Nat) : Int := (columnsWidth widths : Int) + widths.length * 3 - 1

/-- A width scaled by a factor and rounded toward zero, but at least the least width. -/
def scaleWidth (scale : Binary64) (width : Nat) : Nat :=
  (max (leastWidth : Int) (((Binary64.ofInt width).mul scale).truncate?.getD 0)).toNat

/-- The widths of the columns of a table that should not be wider than the limit. -/
def fit (limit : Int) (widths : List Nat) : Except Fault (List Nat) :=
  if totalWidth widths ≤ limit then .ok widths
  else if columnsWidth widths = 0 then .error (.ofKind .zeroDivision)
  else
    let room := limit - widths.length * 3 + 1
    let scale := Binary64.ofRatio (room < 0) room.natAbs (columnsWidth widths)
    .ok (widths.map (scaleWidth scale))

def divider : String := " │ "

/-- The cells of a row, each as wide as its column. -/
def line (widths : List Nat) (cells : List String) : String :=
  String.intercalate divider (List.zipWith (fun w cell => Text.padRight w (cutTo w cell)) widths cells)

def headerLine (widths : List Nat) (headers : List String) : String :=
  String.intercalate divider (List.zipWith Text.padRight widths headers)

def ruleLine (widths : List Nat) : String :=
  String.intercalate "─┼─" (widths.map fun w => Text.repeated w '─')

/-- The lines of a table: the headers, a rule, and the rows. -/
def lines (colored : Bool) (limit : Int) (headers : List String) (rows : List (List String)) :
    Except Fault (List String) :=
  match naturalWidths headers rows with
  | .error e => .error e
  | .ok natural =>
    match fit limit natural with
    | .error e => .error e
    | .ok widths =>
      .ok (Emphasis.strong.paint colored (headerLine widths headers) :: ruleLine widths ::
        rows.map (line widths))

/-- A table as text. Without rows there is nothing to show. -/
def render (colored : Bool) (limit : Int) (headers : List String) (rows : List (List String)) :
    Except Fault String :=
  if rows.isEmpty then .ok "" else (lines colored limit headers rows).map (String.intercalate "\n")

end Table

end CaptureForest
