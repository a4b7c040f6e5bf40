import CaptureForest.Text.LowerCase
/-!
# Patterns

Regular expressions on texts and what they match. A pattern takes a set of positions in a text to the
set of positions at which a match that begins at one of them can end; a text is found by a pattern if
some match begins anywhere in it. Sets of positions are lists without repetition.
-/

namespace CaptureForest

/-- The classes of characters that have names. -/
inductive CharKind where
  | word
  | digit
  | blank
deriving DecidableEq, Repr

/-- A member of a set of characters. -/
inductive CharItem where
  | range (low high : Char)
  | kind (kind : CharKind) (isMember : Bool)
deriving DecidableEq, Repr

/-- A set of characters, or what is outside of it. -/
structure CharSet where
  items : List CharItem
  negated : Bool := false
  ignoreCase : Bool := false
  asciiOnly : Bool := false
deriving DecidableEq, Repr

inductive Pattern where
  | empty
  | chars (set : CharSet)
  | any (alsoBreaks : Bool)
  | textStart
  | textEnd
  | lineStart
  | lineEnd
  | lastLineEnd
  | wordEdge (isEdge asciiOnly : Bool)
  | seq (first second : Pattern)
  | alt (first second : Pattern)
  | times (least : Nat) (most : Option Nat) (body : Pattern)
  | look (ahead positive : Bool) (body : Pattern)
deriving Repr

namespace CharKind

def contains (kind : CharKind) (asciiOnly : Bool) (c : Char) : Bool :=
  (!asciiOnly || c.toNat < 128) &&
    match kind with
    | .word => Text.isWordChar c
    | .digit => Text.isDecimal c
    | .blank => Text.isBlank c && !(asciiOnly && 28 ≤ c.toNat && c.toNat < 32)

end CharKind

namespace CharSet

/-- The spellings of a character that a set without case takes for the same. -/
def spellings (set : CharSet) (c : Char) : List Char :=
  if !set.ignoreCase then [c]
  else if set.asciiOnly then [c, c.toLower, c.toUpper]
  else c :: (Text.sameCapital (Text.lowerChar c)).flatMap fun small => small :: Text.capitalsOf small

def itemContains (set : CharSet) (c : Char) : CharItem → Bool
  | .range low high => (set.spellings c).any fun d => low ≤ d && d ≤ high
  | .kind kind isMember => kind.contains set.asciiOnly c == isMember

def contains (set : CharSet) (c : Char) : Bool := set.items.any (set.itemContains c) != set.negated

end CharSet

namespace Pattern

/-- Whether a word begins or ends at a position. -/
def atWordEdge (asciiOnly : Bool) (text : Array Char) (i : Nat) : Bool :=
  let isWord (c : Option Char) : Bool := c.any fun c => CharKind.word.contains asciiOnly c
  isWord (if i = 0 then none else text[i - 1]?) != isWord text[i]?

/-- The positions of both sets, each once. -/
def union (a b : List Nat) : List Nat := a ++ b.filter fun i => !a.contains i

/-- Applies a step to a set of positions, and the step again to the result, a number of times. -/
def exactly (step : List Nat → List Nat) : Nat → List Nat → List Nat
  | 0, s => s
  | n + 1, s => if s.isEmpty then [] else exactly step n (step s)

/-- All positions that are reached by at most a number of steps. -/
def atMost (step : List Nat → List Nat) : Nat → List Nat → List Nat
  | 0, s => s
  | n + 1, s => if s.isEmpty then [] else union s (atMost step n (step s))

/-- The positions at which matches end that begin in the given positions. -/
def ends (text : Array Char) : Pattern → List Nat → List Nat
  | .empty, s => s
  | .chars set, s => s.filterMap fun i => if text[i]?.any set.contains then some (i + 1) else none
  | .any alsoBreaks, s =>
    s.filterMap fun i => if text[i]?.any fun c => alsoBreaks || c != '\n' then some (i + 1) else none
  | .textStart, s => s.filter (· == 0)
  | .textEnd, s => s.filter (· == text.size)
  | .lineStart, s => s.filter fun i => i == 0 || text[i - 1]? == some '\n'
  | .lineEnd, s => s.filter fun i => i == text.size || text[i]? == some '\n'
  | .lastLineEnd, s => s.filter fun i => i == text.size || (i + 1 == text.size && text[i]? == some '\n')
  | .wordEdge true asciiOnly, s => s.filter (atWordEdge asciiOnly text)
  | .wordEdge false asciiOnly, s => s.filter fun i => text.size != 0 && !atWordEdge asciiOnly text i
  | .seq p q, s => q.ends text (p.ends text s)
  | .alt p q, s => union (p.ends text s) (q.ends text s)
  | .times least most p, s =>
    let further := match most with
      | some n => n - least
      | none => text.size + 1
    atMost (p.ends text) further (exactly (p.ends text) least s)
  | .look true positive p, s => s.filter fun i => !(p.ends text [i]).isEmpty == positive
  | .look false positive p, s =>
    s.filter fun i => ((List.range (i + 1)).any fun start => (p.ends text [start]).contains i) == positive

/-- Whether a match of the pattern begins anywhere in the text. -/
def occursIn (p : Pattern) (text : String) : Bool :=
  let chars := text.toList.toArray
  !(p.ends chars (List.range (chars.size + 1))).isEmpty

/-- The number of characters of all matches, if it is the same for all. -/
def width? : Pattern → Option Nat
  | .chars _ | .any _ => some 1
  | .seq p q => do return (← p.width?) + (← q.width?)
  | .alt p q => do
    let m ← p.width?
    let n ← q.width?
    if m = n then some m else none
  | .times least most p => do
    let n ← p.width?
    if n = 0 then some 0 else if most = some least then some (least * n) else none
  | _ => some 0

end Pattern

end CaptureForest
