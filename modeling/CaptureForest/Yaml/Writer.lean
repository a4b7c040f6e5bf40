import CaptureForest.Fault.Basic
import CaptureForest.Text.Base64
import CaptureForest.Yaml.Scalar
/-!
# Writing YAML

Values as YAML in blocks: an item of a list begins with a dash, a pair of a map is a key with a colon,
and what is inside of a value stands two columns further in. Lists inside of maps are not moved in. Texts
are plain where no reader takes them for something else, and quoted otherwise; a line that has passed
column 80 is folded at the next blank.
-/

namespace CaptureForest

namespace Yaml

/-- A text that is being written: what is there, and where the next part begins. -/
structure Page where
  text : String := ""
  column : Nat := 0
  afterBlank : Bool := true
  inMargin : Bool := true

namespace Page

/-- The column from which on lines are folded. -/
def width : Nat := 80

def put (s : String) (p : Page) : Page :=
  { p with text := p.text ++ s, column := p.column + s.length }

/-- Writes a sign of the notation, after a blank where one is needed. -/
def sign (s : String) (needsBlank : Bool) (p : Page) (isBlank keepsMargin : Bool := false) : Page :=
  let p := p.put (if p.afterBlank || !needsBlank then s else " " ++ s)
  { p with afterBlank := isBlank, inMargin := p.inMargin && keepsMargin }

def endLine (p : Page) (mark : String := "\n") : Page :=
  { text := p.text ++ mark, column := 0, afterBlank := true, inMargin := true }

/-- Goes to a column of a line on which nothing but signs stand, which is a new one if need be. -/
def startLine (indent : Nat) (p : Page) : Page :=
  let p := if !p.inMargin || p.column > indent || (p.column = indent && !p.afterBlank) then p.endLine else p
  if p.column < indent then { p.put (Text.padding indent p.column) with afterBlank := true } else p

/-- Marks that text was written. -/
def afterText (p : Page) : Page := { p with afterBlank := false, inMargin := false }

end Page

/-! ## Forms of texts -/

/-- Characters that can only be written by their number. -/
def isSpecial (c : Char) : Bool :=
  let n := c.toNat
  !(c == '\n' || (0x20 ≤ n && n ≤ 0x7E) ||
    ((n == 0x85 || (0xA0 ≤ n && n ≤ 0xFFFD) || (0x10000 ≤ n && n < 0x10FFFF)) && n != 0xFEFF))

/-- Whether two characters side by side satisfy a test. -/
def hasPair (test : Char → Char → Bool) : List Char → Bool
  | c :: d :: rest => test c d || hasPair test (d :: rest)
  | _ => false

/-- Whether a reader could take the beginning of a text for a sign. -/
def beginsLikeSign (s : List Char) : Bool :=
  let isAlone (rest : List Char) : Bool := rest.isEmpty || rest.head?.any isGap
  match s with
  | [] => false
  | '-' :: '-' :: '-' :: _ => true
  | '.' :: '.' :: '.' :: _ => true
  | c :: rest =>
    ['#', ',', '[', ']', '\x7b', '\x7d', '&', '*', '!', '|', '>', '\'', '"', '%', '@', '\x60'].contains c ||
      ((c == '?' || c == ':' || c == '-') && isAlone rest)

/-- Whether a reader could take something inside of a text for a sign. -/
def holdsSign (s : List Char) : Bool :=
  hasPair (fun c d => (c == ':' && isGap d) || (isGap c && d == '#')) s || s.getLast? == some ':'

def isEdge (c : Char) : Bool := c == ' ' || isBreak c

/-- Whether a text can stand without quotes. -/
def canBePlain (s : List Char) : Bool :=
  !s.isEmpty && !s.head?.any isEdge && !s.getLast?.any isEdge && !s.any isBreak && !s.any isSpecial &&
    !beginsLikeSign s && !holdsSign s

/-- Whether a text can stand between single quotes, where lines lose the blanks around their breaks. -/
def canBeQuoted (s : List Char) : Bool :=
  !s.any isSpecial && !hasPair (fun c d => (c == ' ' && isBreak d) || (isBreak c && d == ' ')) s

/-! ## Scalars -/

/-- The parts of a text: a run of blanks, a run of line breaks, or a run of other characters. -/
def runs : List Char → List (List Char)
  | [] => []
  | c :: rest =>
    match runs rest with
    | (d :: run) :: others =>
      if (c == ' ') == (d == ' ') && isBreak c == isBreak d then (c :: d :: run) :: others
      else [c] :: (d :: run) :: others
    | _ => [[c]]

/-- Writes a blank, or folds the line there. -/
def writeBlanks (indent : Nat) (mayFold : Bool) (run : List Char) (p : Page) : Page :=
  if mayFold && run.length = 1 && p.column > Page.width then p.startLine indent
  else p.put (String.ofList run)

def writePlain (indent : Nat) (folds : Bool) (text : String) (p : Page) : Page :=
  let p := (if p.afterBlank then p else p.put " ").afterText
  (runs text.toList).foldl (fun p run =>
    if run.head? == some ' ' then (writeBlanks indent folds run p).afterText
    else p.put (String.ofList run)) p

/-- Writes the line breaks of a quoted text, one more than there are if the first is a new line. -/
def writeBreaks (indent : Nat) (run : List Char) (p : Page) : Page :=
  let p := if run.head? == some '\n' then p.endLine else p
  (run.foldl (fun p c => p.endLine (String.singleton c)) p).startLine indent

def writeQuotedRuns (indent : Nat) (folds : Bool) : Bool → List (List Char) → Page → Page
  | _, [], p => p
  | isFirst, run :: rest, p =>
    let p :=
      if run.head? == some ' ' then writeBlanks indent (folds && !isFirst && !rest.isEmpty) run p
      else if run.head?.any isBreak then writeBreaks indent run p
      else p.put (String.ofList (run.flatMap fun c => if c == '\'' then ['\'', '\''] else [c]))
    writeQuotedRuns indent folds false rest p

def writeQuoted (indent : Nat) (folds : Bool) (text : String) (p : Page) : Page :=
  (writeQuotedRuns indent folds true (runs text.toList) (p.sign "'" true)).sign "'" false

/-- The letter by which a character is written after a backslash. -/
def escapeLetter? : Char → Option Char
  | '\x00' => some '0'
  | '\x07' => some 'a'
  | '\x08' => some 'b'
  | '\t' => some 't'
  | '\n' => some 'n'
  | '\x0b' => some 'v'
  | '\x0c' => some 'f'
  | '\r' => some 'r'
  | '\x1b' => some 'e'
  | '"' => some '"'
  | '\\' => some '\\'
  | '\x85' => some 'N'
  | '\u00a0' => some '_'
  | '\u2028' => some 'L'
  | '\u2029' => some 'P'
  | _ => none

def isEscaped (c : Char) : Bool :=
  let n := c.toNat
  ['"', '\\', '\x85', '\u2028', '\u2029', '\ufeff'].contains c ||
    !((0x20 ≤ n && n ≤ 0x7E) || (0xA0 ≤ n && n ≤ 0xFFFD))

def capitalHex (count n : Nat) : List Char := (Text.hexDigits count n).map Char.toUpper

def escape (c : Char) : List Char :=
  match escapeLetter? c with
  | some letter => ['\\', letter]
  | none =>
    let n := c.toNat
    if n ≤ 0xFF then '\\' :: 'x' :: capitalHex 2 n
    else if n ≤ 0xFFFF then '\\' :: 'u' :: capitalHex 4 n
    else '\\' :: 'U' :: capitalHex 8 n

/-- Ends a line inside of double quotes. A blank that follows is kept from being lost. -/
def foldEscaped (indent : Nat) (next : Option Char) (p : Page) : Page :=
  let p := ((p.put "\\").startLine indent).afterText
  if next == some ' ' then p.put "\\" else p

/-- Writes what is between double quotes; `pending` holds, last first, what was read and not written. -/
def writeEscaped (indent : Nat) (folds : Bool) : Bool → List Char → List Char → Page → Page
  | _, pending, [], p => p.put (String.ofList pending.reverse)
  | isFirst, pending, c :: rest, p =>
    let mayFold := folds && !isFirst && !rest.isEmpty
    let held := String.ofList pending.reverse
    if isEscaped c then
      let p := (p.put held).put (String.ofList (escape c))
      let p := if mayFold && p.column > Page.width + 1 then foldEscaped indent rest.head? p else p
      writeEscaped indent folds false [] rest p
    else if mayFold && (c == ' ' || pending.isEmpty) && p.column + pending.length > Page.width then
      writeEscaped indent folds false [c] rest (foldEscaped indent (some c) (p.put held))
    else writeEscaped indent folds false (c :: pending) rest p

def writeDoubleQuoted (indent : Nat) (folds : Bool) (text : String) (p : Page) : Page :=
  (writeEscaped indent folds true [] text.toList (p.sign "\"" true)).sign "\"" false

def writeText (indent : Nat) (isKey : Bool) (text : String) (p : Page) : Page :=
  let s := text.toList
  if scalarKind text = .text && canBePlain s then writePlain indent (!isKey) text p
  else if canBeQuoted s && !(isKey && s.any isBreak) then writeQuoted indent (!isKey) text p
  else writeDoubleQuoted indent (!isKey) text p

/-- Writes bytes as lines of letters under a mark. -/
def writeBinary (indent : Nat) (octets : List UInt8) (p : Page) : Page :=
  let p := p.sign "!!binary" true
  if octets.isEmpty then writeDoubleQuoted indent true "" p
  else
    let lines := (Text.splitOnChar '\n' (Text.Base64.encode octets)).filter (· ≠ "")
    lines.foldl (fun p line => ((p.startLine indent).put line).endLine) (p.sign "|" true).endLine

/-- The text of a number; the exponent always follows a point. -/
def numberText (x : Binary64) : String :=
  match x with
  | .nan => ".nan"
  | .infinity negative => if negative then "-.inf" else ".inf"
  | _ =>
    let text := x.text.toList
    if text.contains '.' then x.text
    else String.ofList (text.flatMap fun c => if c == 'e' then ['.', '0', 'e'] else [c])

/-! ## Values -/

/-- Where a value stands: as an item, as a key before a colon, or as a value of a map. -/
inductive Place where
  | item
  | key
  | value
deriving DecidableEq, Repr

/-- The name of a scalar's kind and its text, of which the length of a key is made. -/
def scalarText? : Value → Option (String × String)
  | .none => some ("null", "null")
  | .bool b => some ("bool", if b then "true" else "false")
  | .int n => some ("int", toString n)
  | .float x => some ("float", numberText x)
  | .str s => some ("str", s)
  | .bytes octets => some ("binary", Text.Base64.encode octets)
  | .foreign "date" text _ | .foreign "datetime" text _ => some ("timestamp", text)
  | _ => none

/-- Whether a key can stand before its colon on one line. -/
def isSimpleKey (v : Value) : Bool :=
  match scalarText? v with
  | some (kind, text) =>
    text ≠ "" && !text.toList.any isBreak && kind.length + 2 + text.length < 128
  | none => v.items?.any List.isEmpty || v == .map []

def deeper : Option Nat → Nat
  | none => 0
  | some n => n + 2

def scalarIndent (indent : Option Nat) : Nat := indent.getD 0 + 2

def writeEmpty (opening closing : String) (p : Page) : Page :=
  (p.sign opening true true).sign closing false

/-- The column of the items of a list. As a value of a map a list is not moved in. -/
def itemIndent (indent : Option Nat) (place : Place) (p : Page) : Nat :=
  if place ≠ .item && !p.inMargin then indent.getD 0 else deeper indent

mutual

def writeNode (indent : Option Nat) (place : Place) : Value → Page → Except Fault Page
  | .list items, p =>
    if items.isEmpty then .ok (writeEmpty "[" "]" p) else writeItems (itemIndent indent place p) items p
  | .tuple items, p =>
    if items.isEmpty then .ok (writeEmpty "[" "]" p) else writeItems (itemIndent indent place p) items p
  | .map pairs, p =>
    if pairs.isEmpty then .ok (writeEmpty "\x7b" "\x7d" p) else writePairs (deeper indent) pairs p
  | .str text, p => .ok (writeText (scalarIndent indent) (place = .key) text p)
  | .bytes octets, p => .ok (writeBinary (scalarIndent indent) octets p)
  | v, p =>
    match scalarText? v with
    | some (_, text) => .ok (writePlain (scalarIndent indent) (place ≠ .key) text p)
    | none => .error (.ofKind .representer)

def writeItems (indent : Nat) : List Value → Page → Except Fault Page
  | [], p => .ok p
  | item :: rest, p =>
    let p := (p.startLine indent).sign "-" true false true
    match writeNode (some indent) .item item p with
    | .ok p => writeItems indent rest p
    | .error e => .error e

def writePairs (indent : Nat) : List (Value × Value) → Page → Except Fault Page
  | [], p => .ok p
  | (k, v) :: rest, p =>
    let isSimple := isSimpleKey k
    let p := p.startLine indent
    let p := if isSimple then p else p.sign "?" true false true
    match writeNode (some indent) (if isSimple then .key else .value) k p with
    | .error e => .error e
    | .ok p =>
      let p := if isSimple then p.sign ":" false else (p.startLine indent).sign ":" true false true
      match writeNode (some indent) .value v p with
      | .ok p => writePairs indent rest p
      | .error e => .error e

end

/-- A map as the lines of a document, the last line break left out. -/
def render (pairs : Pairs) : Except Fault String :=
  match writeNode none .item (.map pairs) {} with
  | .ok p => .ok (String.ofList (p.text.toList.reverse.dropWhile (· == '\n')).reverse)
  | .error e => .error e

end Yaml

end CaptureForest
