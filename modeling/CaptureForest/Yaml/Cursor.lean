import CaptureForest.Fault.Host
import CaptureForest.Yaml.Scalar
/-!
# Positions in YAML texts

A text that is being read from left to right. Beyond its end there are only null characters.
-/

namespace CaptureForest

namespace Yaml

/-- Why a text cannot be read: its form is wrong, or a value that it denotes cannot be made. -/
inductive ReadFault where
  | malformed
  | host (e : HostFault)
deriving BEq, Repr, Inhabited

/-- What is left to read, and where it begins. -/
structure Cursor where
  rest : List Char
  index : Nat := 0
  line : Nat := 0
  column : Nat := 0
deriving Repr, Inhabited

namespace Cursor

def peek (c : Cursor) (k : Nat := 0) : Char := (c.rest[k]?).getD '\x00'

def atEnd (c : Cursor) : Bool := c.rest.isEmpty

/-- Goes on by one character. A byte order mark takes no column. -/
def next (c : Cursor) : Cursor :=
  match c.rest with
  | [] => c
  | d :: rest =>
    if isBreak d then ⟨rest, c.index + 1, c.line + 1, 0⟩
    else ⟨rest, c.index + 1, c.line, if d = '\ufeff' then c.column else c.column + 1⟩

def skip : Nat → Cursor → Cursor
  | 0, c => c
  | n + 1, c => skip n c.next

/-- The characters of a class that come next, and the position after them. -/
def takeWhile (inClass : Char → Bool) (c : Cursor) : List Char × Cursor :=
  let taken := c.rest.takeWhile inClass
  (taken, c.skip taken.length)

def skipWhile (inClass : Char → Bool) (c : Cursor) : Cursor := (c.takeWhile inClass).2

def skipBlanks (c : Cursor) : Cursor := c.skipWhile (· == ' ')

/-- The line break that comes next. Breaks between lines count as new lines. -/
def lineBreak? (c : Cursor) : Option (Char × Cursor) :=
  let d := c.peek
  if isBreak d then some (if d = '\x85' then '\n' else d, c.next) else none

def skipLineBreak (c : Cursor) : Cursor :=
  match c.lineBreak? with
  | some (_, c) => c
  | none => c

/-- Skips a comment, if one begins here. -/
def skipComment (c : Cursor) : Cursor := if c.peek = '#' then c.skipWhile (!isBreak ·) else c

/-- Whether a mark made of three equal characters stands here alone. -/
def atMark (mark : Char) (c : Cursor) : Bool :=
  c.peek = mark && c.peek 1 = mark && c.peek 2 = mark && isGap (c.peek 3)

/-- Whether a document ends or begins here. -/
def atDocumentMark (c : Cursor) : Bool := c.atMark '-' || c.atMark '.'

/-- Skips blanks, a comment and the end of the line, beyond which nothing else may stand. -/
def finishLine (c : Cursor) : Except ReadFault Cursor :=
  let c := c.skipBlanks.skipComment
  if c.atEnd || isBreak c.peek then .ok c.skipLineBreak else .error .malformed

end Cursor

end Yaml

end CaptureForest
