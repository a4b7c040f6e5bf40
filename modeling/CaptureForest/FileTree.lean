import CaptureForest.Fault.Basic
import CaptureForest.FilePath
/-!
# Files

The files that can be seen from a working directory, with what they hold. A directory is there if a file is
in it. Paths from the root begin with a segment that is a slash.
-/

namespace CaptureForest

/-- Files by their segments, and those of them that may not be read. -/
structure FileTree where
  files : List (List String × List UInt8) := []
  locked : List (List String) := []
deriving Repr, Inhabited

namespace FileTree

/-- The segments of a path, after a slash if it begins at the root. -/
def segments (path : String) : List String :=
  if Text.startsWith path "/" then "/" :: FilePath.segments path else FilePath.segments path

/-- The tree of files with the given paths. -/
def ofFiles (files : List (String × List UInt8)) : FileTree where
  files := files.map fun (path, octets) => (segments path, octets)

/-- The tree with one more file, which may not be read. -/
def lock (t : FileTree) (path : String) : FileTree where
  files := (segments path, []) :: t.files
  locked := segments path :: t.locked

def file? (t : FileTree) (segments : List String) : Option (List UInt8) := t.files.lookup segments

def isDirectory (t : FileTree) (segments : List String) : Bool :=
  segments.isEmpty || t.files.any fun file => segments.isPrefixOf file.1 && segments.length < file.1.length

/-- The greatest numbers of bytes in a segment and in a path. -/
def segmentLimit : Nat := 255

def pathLimit : Nat := 4095

/-- Follows the segments of a path from a directory, two dots going back to the directory around it. -/
def follow (t : FileTree) : List String → List String → Except HostKind (List String)
  | here, [] => .ok here
  | here, segment :: rest =>
    if t.isDirectory here then
      if segment = ".." then
        if here.isEmpty then .error .fileNotFound
        else follow t (if here = ["/"] then here else here.dropLast) rest
      else if segmentLimit < segment.utf8ByteSize then .error .system
      else follow t (here ++ [segment]) rest
    else if (t.file? here).isSome then .error .notDirectory
    else .error .fileNotFound

/-- The fault of a file that cannot be read, with its number and its text. -/
def fault (kind : HostKind) (path : String) : Fault :=
  let (number, text) : Int × String := match kind with
    | .notDirectory => (20, "Not a directory")
    | .isDirectory => (21, "Is a directory")
    | .permission => (13, "Permission denied")
    | .system => (36, "File name too long")
    | _ => (2, "No such file or directory")
  .host { kind := kind, arguments := [.int number, .str text], filename := some (.str path) }

/-- The place that a path leads to. A path by which a file is listed leads there. -/
def locate (t : FileTree) (path : String) : Except HostKind (List String) :=
  if (t.file? (segments path)).isSome then .ok (segments path)
  else if pathLimit < path.utf8ByteSize then .error .system
  else t.follow [] (segments path)

/-- What a file holds. -/
def read (t : FileTree) (path : String) : Except Fault (List UInt8) :=
  if path.toList.contains '\x00' then .error (.badValue "embedded null byte")
  else
    match t.locate path with
    | .error kind => .error (fault kind path)
    | .ok place =>
      match t.file? place with
      | some octets => if t.locked.contains place then .error (fault .permission path) else .ok octets
      | none => .error (fault (if t.isDirectory place then .isDirectory else .fileNotFound) path)

end FileTree

end CaptureForest
