import CaptureForest.Pattern.Basic
import CaptureForest.Json.Reader
/-!
# Reading patterns

Patterns as text: characters, sets of characters, groups, alternatives, repetitions and assertions. A
malformed text is refused with what is wrong and the position of the fault.

The reader does not cover the whole notation of regular expressions. References back to a group,
conditions on a group and characters by name are refused, a second group of one name is accepted, and
atomic groups and possessive repetitions match as greedy ones do. What is proved about searching holds
for whatever a search finds.

The text is first cut into tokens, a backslash making one token with the character after it. The reader
looks one token ahead, so that a backslash at the very end is noticed when the token before it is taken.
-/

namespace CaptureForest

namespace Pattern

/-- Why a text is no pattern. -/
inductive ReadFault where
  | malformed (problem : String) (position : Nat)
  | unplaced (problem : String)
  | tooManyRepetitions
deriving DecidableEq, Repr

inductive Token where
  | plain (c : Char)
  | escaped (c : Char)
  | dangling
deriving DecidableEq, Repr

/-- What is left to read, and where it begins. -/
structure Source where
  tokens : List Token
  position : Nat
deriving Repr

/-- What the options of a group switch on. -/
structure Flags where
  ignoreCase : Bool := false
  multiline : Bool := false
  dotAll : Bool := false
  verbose : Bool := false
  asciiOnly : Bool := false
deriving DecidableEq, Repr

abbrev Reading := Except ReadFault

def tokens : List Char → List Token
  | [] => []
  | ['\\'] => [.dangling]
  | '\\' :: c :: rest => .escaped c :: tokens rest
  | c :: rest => .plain c :: tokens rest

namespace Token

def length : Token → Nat
  | .escaped _ => 2
  | _ => 1

def text : Token → String
  | .plain c => String.singleton c
  | .escaped c => String.ofList ['\\', c]
  | .dangling => "\\"

end Token

namespace Source

def fail {α : Type} (s : Source) (problem : String) (back : Nat := 0) : Reading α :=
  .error (.malformed problem (s.position - back))

/-- A backslash that nothing follows is refused as soon as it is next. -/
def noticeDangling (s : Source) : Reading Source :=
  match s.tokens with
  | .dangling :: _ => s.fail "bad escape (end of pattern)"
  | _ => .ok s

def next (s : Source) : Option Token := s.tokens.head?

/-- Takes the next token. -/
def advance (s : Source) : Reading Source :=
  match s.tokens with
  | [] => .ok s
  | t :: rest => noticeDangling ⟨rest, s.position + t.length⟩

/-- Takes the next token if it is the given character. -/
def take? (s : Source) (c : Char) : Reading (Option Source) :=
  if s.next = some (.plain c) then (s.advance).map some else .ok none

/-- Takes at most a number of characters of a class. -/
def takeWhile (inClass : Char → Bool) : Nat → Source → Reading (List Char × Source)
  | 0, s => .ok ([], s)
  | n + 1, s =>
    match s.tokens with
    | .plain c :: _ =>
      if inClass c then do
        let rest ← s.advance
        let (cs, rest) ← takeWhile inClass n rest
        return (c :: cs, rest)
      else .ok ([], s)
    | _ => .ok ([], s)

/-- Takes a name up to the character that ends it. -/
def nameUntil (terminator : Char) (what : String) : Nat → String → Source → Reading (String × Source)
  | 0, _, s => s.fail ("missing " ++ what)
  | fuel + 1, name, s =>
    match s.tokens with
    | [] =>
      if name = "" then s.fail ("missing " ++ what)
      else s.fail ("missing " ++ String.singleton terminator ++ ", unterminated name") name.length
    | t :: _ => do
      let rest ← s.advance
      if t = .plain terminator then
        if name = "" then rest.fail ("missing " ++ what) 1 else return (name, rest)
      else nameUntil terminator what fuel (name ++ t.text) rest

end Source

/-! ## Escapes -/

def isHexDigit (c : Char) : Bool := (Json.hexValue? c).isSome

def isOctalDigit (c : Char) : Bool := '0' ≤ c && c ≤ '7'

def octalValue (digits : List Char) : Nat := digits.foldl (fun n c => 8 * n + (c.toNat - '0'.toNat)) 0

/-- The control character that a letter stands for after a backslash. -/
def controlEscape? : Char → Option Char
  | 'a' => some '\x07'
  | 'b' => some '\x08'
  | 'f' => some '\x0c'
  | 'n' => some '\n'
  | 'r' => some '\r'
  | 't' => some '\t'
  | 'v' => some '\x0b'
  | '\\' => some '\\'
  | _ => none

/-- The class of characters that a letter stands for after a backslash. -/
def kindEscape? : Char → Option CharItem
  | 'd' => some (.kind .digit true)
  | 'D' => some (.kind .digit false)
  | 's' => some (.kind .blank true)
  | 'S' => some (.kind .blank false)
  | 'w' => some (.kind .word true)
  | 'W' => some (.kind .word false)
  | _ => none

/-- Reads a number of exactly so many hexadecimal digits after the letter of an escape. -/
def hexEscape (letter : Char) (count : Nat) (s : Source) : Reading (Char × Source) := do
  let (digits, rest) ← s.takeWhile isHexDigit count
  let shown := String.ofList ('\\' :: letter :: digits)
  if digits.length ≠ count then rest.fail ("incomplete escape " ++ shown) shown.length
  else
    let n := (Json.hexNumber? digits).getD 0
    if n < 0x110000 then return (Char.ofNat n, rest) else rest.fail ("bad escape " ++ shown) shown.length

def badEscape {α : Type} (c : Char) (s : Source) : Reading α :=
  s.fail ("bad escape " ++ String.ofList ['\\', c]) 2

/-- Reads an escape that stands for one character, after its letter was taken. -/
def charEscape (c : Char) (s : Source) : Reading (Char × Source) :=
  if c = 'x' then hexEscape c 2 s
  else if c = 'u' then hexEscape c 4 s
  else if c = 'U' then hexEscape c 8 s
  else if c.isAlpha then badEscape c s
  else .ok (c, s)

def octalTooBig {α : Type} (digits : List Char) (s : Source) : Reading α :=
  s.fail ("octal escape value \\" ++ String.ofList digits ++ " outside of range 0-0o377")
    (digits.length + 1)

/-- Reads an escape inside a set of characters. -/
def setEscape (c : Char) (s : Source) : Reading (CharItem × Source) :=
  match controlEscape? c, kindEscape? c with
  | some d, _ => .ok (.range d d, s)
  | none, some item => .ok (item, s)
  | none, none =>
    if isOctalDigit c then do
      let (digits, rest) ← s.takeWhile isOctalDigit 2
      let n := octalValue (c :: digits)
      if n > 255 then octalTooBig (c :: digits) rest
      else return (.range (Char.ofNat n) (Char.ofNat n), rest)
    else if c.isDigit then badEscape c s
    else do
      let (d, rest) ← charEscape c s
      return (.range d d, rest)

/-! ## Sets of characters -/

/-- Reads one end of a range, or a member, from a token that was taken. -/
def setItem (t : Token) (s : Source) : Reading (CharItem × Source) :=
  match t with
  | .escaped c => setEscape c s
  | .plain c => .ok (.range c c, s)
  | .dangling => .ok (.range '\\' '\\', s)

/-- Reads a set up to its closing bracket; `start` is where its opening bracket stands. -/
def setItems (start : Nat) : Nat → List CharItem → Source → Reading (List CharItem × Source)
  | 0, _, s => s.fail "unterminated character set" (s.position - start)
  | fuel + 1, read, s =>
    match s.tokens with
    | [] => s.fail "unterminated character set" (s.position - start)
    | first :: _ => do
      let rest ← s.advance
      if first = .plain ']' && !read.isEmpty then return (read, rest)
      let (low, rest) ← setItem first rest
      match ← rest.take? '-' with
      | none => setItems start fuel (read ++ [low]) rest
      | some rest =>
        match rest.tokens with
        | [] => rest.fail "unterminated character set" (rest.position - start)
        | last :: _ =>
          let afterLast ← rest.advance
          if last = .plain ']' then return (read ++ [low, .range '-' '-'], afterLast)
          let (high, afterLast) ← setItem last afterLast
          let shown := first.text ++ "-" ++ last.text
          match low, high with
          | .range a _, .range b _ =>
            if a ≤ b then setItems start fuel (read ++ [.range a b]) afterLast
            else afterLast.fail ("bad character range " ++ shown) shown.length
          | _, _ => afterLast.fail ("bad character range " ++ shown) shown.length

/-! ## Repetitions -/

/-- The largest number of repetitions that can be written. -/
def repetitionLimit : Nat := 4294967295

/-- Reads bounds between braces after the opening brace; `none` if the brace is a plain character. -/
def bounds (s : Source) : Reading (Option (Nat × Option Nat × Source)) := do
  if s.next = some (.plain '\x7d') then return none
  let length := s.tokens.length
  let (low, rest) ← s.takeWhile Json.isDigit length
  let (high, rest) ←
    match ← rest.take? ',' with
    | some rest => rest.takeWhile Json.isDigit length
    | none => .ok (low, rest)
  match ← rest.take? '\x7d' with
  | none => return none
  | some rest =>
    let least := Json.digitsValue low
    if least ≥ repetitionLimit then throw .tooManyRepetitions
    if high.isEmpty then return some (least, none, rest)
    let most := Json.digitsValue high
    if most ≥ repetitionLimit then throw .tooManyRepetitions
    if most < least then rest.fail "min repeat greater than max repeat" (rest.position - s.position)
    else return some (least, some most, rest)

/-! ## Patterns -/

/-- A part of a pattern, with what matters for repeating it. -/
inductive Part where
  | plain (p : Pattern)
  | assertion (p : Pattern)
  | repeated (p : Pattern)

def Part.pattern : Part → Pattern
  | .plain p | .assertion p | .repeated p => p

/-- The parts one after another; the list has the last part first. -/
def sequence (parts : List Part) : Pattern :=
  parts.foldl (fun rest part => .seq part.pattern rest) .empty

def setOf (flags : Flags) (items : List CharItem) (negated : Bool := false) : Pattern :=
  .chars { items, negated, ignoreCase := flags.ignoreCase, asciiOnly := flags.asciiOnly }

def oneChar (flags : Flags) (c : Char) : Part := .plain (setOf flags [.range c c])

/-- Reads an escape outside of sets. -/
def escape (flags : Flags) (c : Char) (s : Source) : Reading (Part × Source) :=
  match c with
  | 'A' => .ok (.assertion .textStart, s)
  | 'Z' => .ok (.assertion .textEnd, s)
  | 'b' => .ok (.assertion (.wordEdge true flags.asciiOnly), s)
  | 'B' => .ok (.assertion (.wordEdge false flags.asciiOnly), s)
  | _ =>
    match kindEscape? c, controlEscape? c with
    | some item, _ => .ok (.plain (setOf flags [item]), s)
    | none, some d => .ok (oneChar flags d, s)
    | none, none =>
      if c = '0' then do
        let (digits, rest) ← s.takeWhile isOctalDigit 2
        return (oneChar flags (Char.ofNat (octalValue digits)), rest)
      else if c.isDigit then do
        let (more, rest) ← s.takeWhile Json.isDigit 1
        let (last, afterLast) ← rest.takeWhile isOctalDigit 1
        let octal := c :: more ++ last
        if octal.length = 3 && octal.all isOctalDigit then
          if octalValue octal > 255 then octalTooBig octal afterLast
          else return (oneChar flags (Char.ofNat (octalValue octal)), afterLast)
        else
          let digits := c :: more
          rest.fail ("invalid group reference " ++ toString (Json.digitsValue digits)) digits.length
      else do
        let (d, rest) ← charEscape c s
        return (oneChar flags d, rest)

/-- Switches a flag by its letter. -/
def setFlag (flags : Flags) (on : Bool) : Char → Flags
  | 'i' => { flags with ignoreCase := on }
  | 'm' => { flags with multiline := on }
  | 's' => { flags with dotAll := on }
  | 'x' => { flags with verbose := on }
  | 'a' => { flags with asciiOnly := on }
  | _ => flags

def isFlag (c : Char) : Bool := "imsxau".toList.contains c

/-- Reads flag letters up to a character that ends them. -/
def flagLetters (ending : List Char) (complaint : String) :
    Nat → List Char → Source → Reading (List Char × Char × Source)
  | 0, _, s => s.fail complaint
  | fuel + 1, read, s =>
    match s.tokens with
    | [] => s.fail complaint
    | t :: _ => do
      let rest ← s.advance
      match t with
      | .plain c =>
        if ending.contains c then return (read, c, rest)
        else if isFlag c then flagLetters ending complaint fuel (read ++ [c]) rest
        else rest.fail (if c.isAlpha then "unknown flag" else complaint) 1
      | t => rest.fail complaint t.length

/-- What the beginning of a group says about it. -/
inductive Opening where
  | group (flags : Flags)
  | globalFlags (flags : Flags)
  | comment
  | assertion (ahead positive : Bool)

/-- Reads flags from their first letter or sign on. -/
def flagOpening (flags : Flags) (c : Char) (s : Source) : Reading (Opening × Source) := do
  let fuel := s.tokens.length + 1
  let (on, ending, rest) ←
    if c = '-' then .ok (([] : List Char), '-', s)
    else flagLetters [')', '-', ':'] "missing -, : or )" fuel [c] s
  let flags := on.foldl (fun f c => setFlag f true c) flags
  if ending = ')' then return (.globalFlags flags, rest)
  if ending = ':' then return (.group flags, rest)
  let (off, _, rest) ← flagLetters [':'] "missing flag" fuel [] rest
  if off.isEmpty then rest.fail "missing flag" 1
  else if off.any on.contains then rest.fail "bad inline flags: flag turned on and off" 1
  else return (.group (off.foldl (fun f c => setFlag f false c) flags), rest)

/-- Reads the beginning of a group after its bracket and question mark. -/
def specialOpening (flags : Flags) (s : Source) : Reading (Opening × Source) :=
  match s.tokens with
  | [] => s.fail "unexpected end of pattern"
  | t :: _ => do
    let rest ← s.advance
    match t with
    | .plain ':' | .plain '>' => return (.group flags, rest)
    | .plain '#' => return (.comment, rest)
    | .plain '=' => return (.assertion true true, rest)
    | .plain '!' => return (.assertion true false, rest)
    | .plain '<' =>
      match rest.tokens with
      | [] => rest.fail "unexpected end of pattern"
      | u :: _ =>
        let after ← rest.advance
        match u with
        | .plain '=' => return (.assertion false true, after)
        | .plain '!' => return (.assertion false false, after)
        | u => after.fail ("unknown extension ?<" ++ u.text) (u.length + 2)
    | .plain 'P' =>
      match ← rest.take? '<' with
      | some rest =>
        let (name, rest) ← rest.nameUntil '>' "group name" (rest.tokens.length + 1) ""
        let isName := name.toList.all Text.isWordChar && !(name.toList.head?.any Text.isDecimal)
        if isName then return (.group flags, rest)
        else rest.fail ("bad character in group name " ++ Text.quote name) (name.length + 1)
      | none =>
        match rest.tokens with
        | [] => rest.fail "unexpected end of pattern"
        | u :: _ =>
          let after ← rest.advance
          after.fail ("unknown extension ?P" ++ u.text) (u.length + 2)
    | .plain c =>
      if isFlag c || c = '-' then flagOpening flags c rest
      else rest.fail ("unknown extension ?" ++ String.singleton c) 2
    | t => rest.fail ("unknown extension ?" ++ t.text) (t.length + 1)

/-- Skips a comment up to its closing bracket. -/
def skipComment (start : Nat) : Nat → Source → Reading Source
  | 0, s => s.fail "missing ), unterminated comment" (s.position - start)
  | fuel + 1, s =>
    match s.tokens with
    | [] => s.fail "missing ), unterminated comment" (s.position - start)
    | t :: _ => do
      let rest ← s.advance
      if t = .plain ')' then return rest else skipComment start fuel rest

/-- Skips the rest of a line. -/
def skipLine : Nat → Source → Reading Source
  | 0, s => .ok s
  | fuel + 1, s =>
    match s.tokens with
    | [] => .ok s
    | t :: _ => do
      let rest ← s.advance
      if t = .plain '\n' then return rest else skipLine fuel rest

/-- Repeats the last part. `mark` is where the repetition is written. -/
def repeatLast (parts : List Part) (least : Nat) (most : Option Nat) (mark : Nat) (s : Source) :
    Reading (List Part × Source) :=
  let back := s.position - mark
  match parts with
  | [] | .assertion _ :: _ => s.fail "nothing to repeat" back
  | .repeated _ :: _ => s.fail "multiple repeat" back
  | .plain p :: rest => do
    let repeated := Part.repeated (.times least most p) :: rest
    match ← s.take? '?' with
    | some s => return (repeated, s)
    | none => return (repeated, (← s.take? '+').getD s)

/-- The part that an assertion or a group makes of its body. -/
def closeGroup (opening : Opening) (p : Pattern) : Reading Part :=
  match opening with
  | .assertion ahead positive =>
    if !ahead && p.width?.isNone then .error (.unplaced "look-behind requires fixed-width pattern")
    else .ok (.plain (.look ahead positive p))
  | _ => .ok (.plain p)

/-- Reads the beginning of a group after its bracket. -/
def groupOpening (flags : Flags) (s : Source) : Reading (Opening × Source) := do
  match ← s.take? '?' with
  | none => return (.group flags, s)
  | some rest => specialOpening flags rest

/-- The flags that hold inside of a group. -/
def Opening.innerFlags (outer : Flags) : Opening → Flags
  | .group flags => flags
  | _ => outer

mutual

/-- Reads alternatives up to the end or a closing bracket. -/
def alternatives (flags : Flags) (outermost : Bool) : Nat → Source → Reading (Pattern × Source)
  | 0, s => .ok (.empty, s)
  | fuel + 1, s => do
    let (first, flags, rest) ← parts flags outermost fuel [] s
    furtherAlternatives flags fuel first rest

def furtherAlternatives (flags : Flags) : Nat → Pattern → Source → Reading (Pattern × Source)
  | 0, read, s => .ok (read, s)
  | fuel + 1, read, s => do
    match ← s.take? '|' with
    | none => return (read, s)
    | some rest =>
      let (other, _, rest) ← parts flags false fuel [] rest
      furtherAlternatives flags fuel (.alt read other) rest

/-- Reads parts up to an alternative, a closing bracket or the end. Flags for the whole pattern may only
stand at its very beginning, before any part. -/
def parts (flags : Flags) (mayFlag : Bool) :
    Nat → List Part → Source → Reading (Pattern × Flags × Source)
  | 0, read, s => .ok (sequence read, flags, s)
  | fuel + 1, read, s =>
    match s.tokens with
    | [] => .ok (sequence read, flags, s)
    | .plain '|' :: _ | .plain ')' :: _ => .ok (sequence read, flags, s)
    | t :: _ => do
      let start := s.position
      let rest ← s.advance
      let go (part : Part) (rest : Source) := parts flags mayFlag fuel (part :: read) rest
      match t with
      | .dangling => go (oneChar flags '\\') rest
      | .escaped c =>
        let (part, rest) ← escape flags c rest
        go part rest
      | .plain c =>
        if flags.verbose && " \t\n\r\x0b\x0c".toList.contains c then parts flags mayFlag fuel read rest
        else if flags.verbose && c = '#' then
          parts flags mayFlag fuel read (← skipLine (rest.tokens.length + 1) rest)
        else
          match c with
          | '.' => go (.plain (.any flags.dotAll)) rest
          | '^' => go (.assertion (if flags.multiline then .lineStart else .textStart)) rest
          | '$' => go (.assertion (if flags.multiline then .lineEnd else .lastLineEnd)) rest
          | '[' =>
            let negated ← rest.take? '^'
            let (items, rest) ← setItems start (rest.tokens.length + 1) [] (negated.getD rest)
            go (.plain (setOf flags items negated.isSome)) rest
          | '?' =>
            let (read, rest) ← repeatLast read 0 (some 1) start rest
            parts flags mayFlag fuel read rest
          | '*' =>
            let (read, rest) ← repeatLast read 0 none start rest
            parts flags mayFlag fuel read rest
          | '+' =>
            let (read, rest) ← repeatLast read 1 none start rest
            parts flags mayFlag fuel read rest
          | '\x7b' =>
            match ← bounds rest with
            | none => go (oneChar flags c) rest
            | some (least, most, rest) =>
              let (read, rest) ← repeatLast read least most start rest
              parts flags mayFlag fuel read rest
          | '(' =>
            let (opening, rest) ← groupOpening flags rest
            match opening with
            | .comment => parts flags mayFlag fuel read (← skipComment start (rest.tokens.length + 1) rest)
            | .globalFlags flags =>
              if mayFlag && read.isEmpty then parts flags mayFlag fuel read rest
              else rest.fail "global flags not at the start of the expression" (rest.position - start)
            | opening =>
              let (p, rest) ← alternatives (opening.innerFlags flags) false fuel rest
              match ← rest.take? ')' with
              | none => rest.fail "missing ), unterminated subpattern" (rest.position - start)
              | some rest => go (← closeGroup opening p) rest
          | c => go (oneChar flags c) rest

end

/-- Reads a whole text as a pattern, with flags that hold from the beginning. -/
def readWith (flags : Flags) (text : List Char) : Reading Pattern := do
  let source ← Source.noticeDangling ⟨tokens text, 0⟩
  let (p, rest) ← alternatives flags true (3 * text.length + 3) source
  if rest.tokens.isEmpty then return p else rest.fail "unbalanced parenthesis"

/-- Reads a whole text as a pattern. -/
def ofString (text : String) : Reading Pattern := readWith {} text.toList

/-- Reads a text of letters that stand for bytes as a pattern, to which only the letters of ASCII are
letters. -/
def ofByteText (text : String) : Reading Pattern := readWith { asciiOnly := true } text.toList

/-- The description of a fault in a text. The line is told only where there are several. -/
def ReadFault.text (source : String) : ReadFault → String
  | .malformed problem position =>
    let before := source.toList.take position
    let told := problem ++ " at position " ++ toString position
    if source.toList.contains '\n' then
      let column := (before.reverse.takeWhile (· != '\n')).length + 1
      let line := before.count '\n' + 1
      s!"{told} (line {line}, column {column})"
    else told
  | .unplaced problem => problem
  | .tooManyRepetitions => "the repetition number is too large"

end Pattern

end CaptureForest
