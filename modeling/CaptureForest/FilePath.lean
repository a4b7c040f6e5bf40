import CaptureForest.Text.Layout
/-!
# File paths

Paths with forward slashes in their shortest spelling: no empty segment and no segment `.`. The path
without segments is written `.`.
-/

namespace CaptureForest

namespace FilePath

/-- What a path begins with: nothing, one slash, or exactly two. -/
def root (path : String) : String :=
  match (path.toList.takeWhile (· == '/')).length with
  | 0 => ""
  | 2 => "//"
  | _ => "/"

/-- The segments of a path that count. -/
def segments (path : String) : List String :=
  (Text.splitOnChar '/' path).filter fun part => part != "" && part != "."

/-- The shortest spelling of a path. -/
def normalize (path : String) : String :=
  let text := root path ++ String.intercalate "/" (segments path)
  if text = "" then "." else text

/-- The last segment of a path. -/
def name (path : String) : String := (segments path).getLast?.getD ""

/-- The part of a name from its last dot on, the dot included. A dot at either end does not count. -/
def suffix (path : String) : String :=
  let chars := (name path).toList
  let extension := (chars.reverse.takeWhile (· != '.')).reverse
  if extension.isEmpty || chars.length < extension.length + 2 then ""
  else String.ofList ('.' :: extension)

/-- A name up to its last dot, unless only dots precede that dot. -/
def stem (path : String) : String :=
  let chars := ((Text.splitOnChar '/' path).getLast?.getD "").toList
  let extension := (chars.reverse.takeWhile (· != '.')).reverse
  let before := chars.take (chars.length - extension.length - 1)
  if extension.length = chars.length || before.all (· == '.') then String.ofList chars
  else String.ofList before

end FilePath

end CaptureForest
