import CaptureForest.Text.Layout
/-!
# Log files

Files to which lines are added. A file that would grow to a greatest size is set aside first: it becomes
the first of its backups, the others move on by one, and the oldest goes.
-/

namespace CaptureForest

/-- The size that no file is to reach, and how many files are kept beside each. -/
structure Rotation where
  maxSize : Int := 10485760
  backups : Int := 5
deriving DecidableEq, Repr, Inhabited

/-- Files by name with what they hold. -/
structure LogFiles where
  files : List (String × String) := []
deriving DecidableEq, Repr, Inhabited

namespace LogFiles

def text (f : LogFiles) (name : String) : String := (f.files.lookup name).getD ""

def contains (f : LogFiles) (name : String) : Bool := (f.files.lookup name).isSome

def erase (f : LogFiles) (name : String) : LogFiles := ⟨f.files.filter (·.1 != name)⟩

/-- The files with one of them set to a text. -/
def put (f : LogFiles) (name text : String) : LogFiles :=
  if f.contains name then ⟨f.files.map fun file => if file.1 == name then (name, text) else file⟩
  else ⟨f.files ++ [(name, text)]⟩

/-- Moves a file to another name, if it is there. -/
def move (f : LogFiles) (old new : String) : LogFiles :=
  if f.contains old then ((f.erase new).put new (f.text old)).erase old else f

def backupName (name : String) (number : Nat) : String := name ++ "." ++ toString number

/-- Makes room for the first backup: every backup but the last one moves on by one. -/
def shift (name : String) : Nat → LogFiles → LogFiles
  | 0, f => f
  | count + 1, f => shift name count (f.move (backupName name (count + 1)) (backupName name (count + 2)))

/-- Sets a file aside, if files are kept at all. -/
def rotate (r : Rotation) (name : String) (f : LogFiles) : LogFiles :=
  if r.backups ≤ 0 then f else (shift name (r.backups.toNat - 1) f).move name (backupName name 1)

/-- Whether a line, counted in characters, would let a file, counted in bytes, reach the greatest size. -/
def wouldFill (r : Rotation) (name line : String) (f : LogFiles) : Bool :=
  0 < r.maxSize && r.maxSize ≤ ((f.text name).utf8ByteSize + line.length : Nat)

/-- Adds a line with its end to a file. -/
def append (r : Rotation) (name line : String) (f : LogFiles) : LogFiles :=
  let f := if f.wouldFill r name line then f.rotate r name else f
  f.put name (f.text name ++ line)

end LogFiles

end CaptureForest
