import CaptureForest.Pairs
import CaptureForest.Value.Text
/-!
# Keywords of declarations

The attribute names that have a meaning, in groups. The location group, the refinements of a file and
the template group are in order of priority. A name may be spelled with leading colons and with
underscores for hyphens; names that spell no keyword are kept exactly as written.
-/

namespace CaptureForest

namespace Keyword

/-- The attributes that a declaration with children may carry. -/
def structural : List String := ["name", "keys", "children"]

def locations : List String := ["clock", "id", "function", "target", "file"]

def fileRefinements : List String := ["olp", "headline", "regexp", "function"]

def templates : List String := ["template", "template-file", "template-function"]

/-- The slots of the hook phases, in the order of the phases. -/
def hooks : List String := HookPhase.all.map HookPhase.slot

/-- The options that are handed to the capture engine as they are. -/
def options : List String :=
  ["prepend", "immediate-finish", "jump-to-captured", "empty-lines", "empty-lines-before",
    "empty-lines-after", "clock-in", "clock-keep", "clock-resume", "time-prompt", "tree-type",
    "unnarrowed", "table-line-pos", "kill-buffer", "no-save"]

/-- The attributes that hold something to be called. -/
def callables : List String := "function" :: "template-function" :: hooks

def recognized : List String :=
  structural ++ ["type", "datetree"] ++ locations ++ fileRefinements ++ templates ++ hooks ++ options

/-- The keyword that a name may spell: without leading colons and with hyphens for underscores. -/
def normalizeChars (name : List Char) : List Char :=
  (name.dropWhile (· == ':')).map fun c => if c = '_' then '-' else c

def normalize (name : String) : String := String.ofList (normalizeChars name.toList)

/-- The keyword spelled by the text of a value. -/
def spelled (name : Value) : String := normalize name.plain

/-- The name under which a declared attribute is kept. -/
def attributeKey (name : Value) : Value :=
  if recognized.contains (spelled name) then .str (spelled name) else name

end Keyword

end CaptureForest
