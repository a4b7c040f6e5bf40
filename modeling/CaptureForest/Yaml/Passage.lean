import CaptureForest.Number.Integer
import CaptureForest.Yaml.Cursor
/-!
# Scalars in YAML texts

How the text of a scalar is read in each of its styles: plain, between quotes, or as a block of lines.
Line breaks inside of plain and quoted scalars are folded to blanks, but for empty lines.
-/

namespace CaptureForest

namespace Yaml

namespace Cursor

/-! ## Plain scalars -/

/-- The characters up to a blank, a colon that ends a key, or a sign of a flow collection. -/
def plainRun (inFlow : Bool) : List Char → List Char
  | [] => []
  | c :: rest =>
    let next := (rest.head?).getD '\x00'
    let isFlowSign (d : Char) : Bool := inFlow && [',', '[', ']', '\x7b', '\x7d'].contains d
    let endsKey := c == ':' && (isGap next || isFlowSign next)
    if isGap c || isFlowSign c || endsKey || (inFlow && c == '?') then [] else c :: plainRun inFlow rest

/-- The line breaks between lines of a plain scalar, up to a mark that ends the document. -/
def plainBreaks : Nat → Cursor → Option (List Char) × Cursor
  | 0, c => (some [], c)
  | fuel + 1, c =>
    if c.peek = ' ' then plainBreaks fuel c.next
    else
      match c.lineBreak? with
      | none => (some [], c)
      | some (b, c) =>
        if c.atDocumentMark then (none, c)
        else
          let (others, c) := plainBreaks fuel c
          (others.map (b :: ·), c)

/-- A line break and the ones after it as text: one new line is a blank, and each further one stays. -/
def folded (first : Char) (others : List Char) : List Char :=
  if first != '\n' then first :: others else if others.isEmpty then [' '] else others

/-- What stands between two runs of a plain scalar, and whether it holds a line break. -/
def plainGap (c : Cursor) : List Char × Bool × Cursor :=
  let (blanks, c) := c.takeWhile (· == ' ')
  match c.lineBreak? with
  | none => (blanks, false, c)
  | some (b, c) =>
    if c.atDocumentMark then ([], true, c)
    else
      match plainBreaks c.rest.length c with
      | (none, c) => ([], true, c)
      | (some others, c) => (folded b others, true, c)

/-- A plain scalar whose lines after the first begin in a column or further right. The answer tells as
well whether a line break was passed after the last run. -/
def plainScalar (inFlow : Bool) (indent : Nat) :
    Nat → List Char → Bool → Cursor → List Char × Bool × Cursor
  | 0, _, passed, c => ([], passed, c)
  | fuel + 1, gap, passed, c =>
    let run := if c.peek = '#' then [] else plainRun inFlow c.rest
    if run.isEmpty then ([], passed, c)
    else
      let (next, passed, c) := plainGap (c.skip run.length)
      if next.isEmpty || c.peek = '#' || (!inFlow && c.column < indent) then (gap ++ run, passed, c)
      else
        let (others, passed, c) := plainScalar inFlow indent fuel next passed c
        (gap ++ run ++ others, passed, c)

/-! ## Quoted scalars -/

/-- The line breaks inside of quotes, between which only blanks stand. -/
def quotedBreaks : Nat → Cursor → Except ReadFault (List Char × Cursor)
  | 0, c => .ok ([], c)
  | fuel + 1, c =>
    if c.atDocumentMark then .error .malformed
    else
      let c := c.skipWhile fun d => d == ' ' || d == '\t'
      match c.lineBreak? with
      | none => .ok ([], c)
      | some (b, c) =>
        match quotedBreaks fuel c with
        | .ok (others, c) => .ok (b :: others, c)
        | .error e => .error e

/-- The character that a letter after a backslash stands for. -/
def escapedChar? : Char → Option Char
  | '0' => some '\x00'
  | 'a' => some '\x07'
  | 'b' => some '\x08'
  | 't' | '\t' => some '\t'
  | 'n' => some '\n'
  | 'v' => some '\x0b'
  | 'f' => some '\x0c'
  | 'r' => some '\r'
  | 'e' => some '\x1b'
  | ' ' => some ' '
  | '"' => some '"'
  | '\\' => some '\\'
  | '/' => some '/'
  | 'N' => some '\x85'
  | '_' => some '\u00a0'
  | 'L' => some '\u2028'
  | 'P' => some '\u2029'
  | _ => none

/-- The number of digits after a letter that announces the number of a character. -/
def escapeWidth? : Char → Option Nat
  | 'x' => some 2
  | 'u' => some 4
  | 'U' => some 8
  | _ => none

def isHighHalf (n : Nat) : Bool := 0xD800 ≤ n && n < 0xDC00

def isLowHalf (n : Nat) : Bool := 0xDC00 ≤ n && n < 0xE000

/-- The character with a number. A half of a character alone stands for none. -/
def charOfNumber (n : Nat) : Except ReadFault Char :=
  if 0x110000 ≤ n then
    .error <| .host <|
      if 0x80000000 ≤ n then { kind := .overflow }
      else { kind := .value, arguments := [.str "chr() arg not in range(0x110000)"] }
  else if isHighHalf n || isLowHalf n then .ok '\ufffd'
  else .ok (Char.ofNat n)

/-- The number of a character, after a letter that tells how many digits it has. -/
def escapedNumber? (c : Cursor) : Option (Nat × Cursor) := do
  let width ← escapeWidth? c.peek
  let digits := c.next.rest.take width
  if digits.length == width && digits.all fun d => isHexOrGap d && d != '_' then
    return (← Text.digits 16 digits, c.next.skip width)
  else none

/-- The second half of a character that was written in two halves. -/
def lowHalf? (c : Cursor) : Option (Nat × Cursor) := do
  if c.peek = '\\' then
    let (n, c) ← c.next.escapedNumber?
    if isLowHalf n then return (n, c) else none
  else none

/-- The character with a number, or that of which the number is the first half. -/
def escapedNumber (c : Cursor) : Except ReadFault (Char × Cursor) :=
  match c.escapedNumber? with
  | none => .error .malformed
  | some (high, c) =>
    match if isHighHalf high then c.lowHalf? else none with
    | some (low, c) => .ok (Char.ofNat (0x10000 + (high - 0xD800) * 0x400 + (low - 0xDC00)), c)
    | none => (charOfNumber high).map fun d => (d, c)

/-- What a backslash stands for together with what follows it. -/
def escape (c : Cursor) : Except ReadFault (List Char × Cursor) :=
  match escapedChar? c.peek with
  | some d => .ok ([d], c.next)
  | none =>
    if (escapeWidth? c.peek).isSome then c.escapedNumber.map fun (d, c) => ([d], c)
    else
      match c.lineBreak? with
      | some (_, c) => quotedBreaks (c.rest.length + 1) c
      | none => .error .malformed

/-- The characters inside of quotes up to a blank, a line break or the end of the scalar. -/
def quotedRun (isDouble : Bool) : Nat → Cursor → Except ReadFault (List Char × Cursor)
  | 0, c => .ok ([], c)
  | fuel + 1, c =>
    let goOn (taken : List Char) (c : Cursor) : Except ReadFault (List Char × Cursor) :=
      match quotedRun isDouble fuel c with
      | .ok (others, c) => .ok (taken ++ others, c)
      | .error e => .error e
    let d := c.peek
    if c.atEnd || isGap d then .ok ([], c)
    else if isDouble then
      if d = '"' then .ok ([], c)
      else if d = '\\' then
        match escape c.next with
        | .ok (taken, c) => goOn taken c
        | .error e => .error e
      else goOn [d] c.next
    else if d = '\'' then if c.peek 1 = '\'' then goOn [d] (c.skip 2) else .ok ([], c)
    else goOn [d] c.next

/-- The blanks or the line breaks between two runs of a quoted scalar. -/
def quotedGap (c : Cursor) : Except ReadFault (List Char × Cursor) :=
  let (blanks, c) := c.takeWhile fun d => d == ' ' || d == '\t'
  if c.atEnd then .error .malformed
  else
    match c.lineBreak? with
    | none => .ok (blanks, c)
    | some (b, c) =>
      match quotedBreaks (c.rest.length + 1) c with
      | .ok (others, c) => .ok (folded b others, c)
      | .error e => .error e

/-- A quoted scalar after its first quote. -/
def quotedScalar (isDouble : Bool) : Nat → Cursor → Except ReadFault (List Char × Cursor)
  | 0, _ => .error .malformed
  | fuel + 1, c =>
    match quotedRun isDouble (c.rest.length + 1) c with
    | .error e => .error e
    | .ok (run, c) =>
      if !c.atEnd && c.peek = (if isDouble then '"' else '\'') then .ok (run, c.next)
      else
        match quotedGap c with
        | .error e => .error e
        | .ok (gap, c) =>
          match quotedScalar isDouble fuel c with
          | .ok (others, c) => .ok (run ++ gap ++ others, c)
          | .error e => .error e

/-! ## Block scalars -/

/-- What becomes of the line breaks at the end of a block. -/
inductive Chomping where
  | clip
  | strip
  | keep
deriving DecidableEq, Repr

def chomping? : Char → Option Chomping
  | '+' => some .keep
  | '-' => some .strip
  | _ => none

/-- The digit that tells the indentation of a block, which is not zero. -/
def blockDigit (c : Cursor) : Except ReadFault (Option Nat × Cursor) :=
  let d := c.peek
  if isDigit d then
    if d = '0' then .error .malformed else .ok (some (d.toNat - '0'.toNat), c.next)
  else .ok (none, c)

/-- The signs after the mark of a block, in either order. -/
def blockSigns (c : Cursor) : Except ReadFault (Chomping × Option Nat × Cursor) := do
  let (chomping, increment, c) ←
    match chomping? c.peek with
    | some chomping => do
      let (increment, c) ← blockDigit c.next
      pure (chomping, increment, c)
    | none => do
      let (increment, c) ← blockDigit c
      match increment, chomping? c.peek with
      | some _, some chomping => pure (chomping, increment, c.next)
      | _, _ => pure (.clip, increment, c)
  if isGap c.peek && c.peek != '\t' then return (chomping, increment, c) else .error .malformed

def skipBlanksTo (column : Nat) (c : Cursor) : Cursor :=
  c.skip (min (column - c.column) (c.rest.takeWhile (· == ' ')).length)

/-- Empty lines of a block. -/
def blockBreaks (indent : Nat) : Nat → Cursor → List Char × Cursor
  | 0, c => ([], c)
  | fuel + 1, c =>
    let c := c.skipBlanksTo indent
    match c.lineBreak? with
    | none => ([], c)
    | some (b, c) =>
      let (others, c) := blockBreaks indent fuel c
      (b :: others, c)

/-- Empty lines before a block whose indentation is not known, and the furthest column in them. -/
def blockIndentation : Nat → Nat → Cursor → List Char × Nat × Cursor
  | 0, furthest, c => ([], furthest, c)
  | fuel + 1, furthest, c =>
    if c.peek = ' ' then blockIndentation fuel (max furthest c.next.column) c.next
    else
      match c.lineBreak? with
      | none => ([], furthest, c)
      | some (b, c) =>
        let (others, furthest, c) := blockIndentation fuel furthest c
        (b :: others, furthest, c)

/-- The lines of a block, after the empty lines before them: the text, the last line break, the empty
lines after it, and where the block ends. -/
def blockLines (indent : Nat) (folds : Bool) :
    Nat → List Char → Cursor → List Char × Option Char × List Char × Cursor
  | 0, breaks, c => ([], none, breaks, c)
  | fuel + 1, breaks, c =>
    let isInside (c : Cursor) : Bool := c.column = indent && !c.atEnd
    let isBlank (d : Char) : Bool := d == ' ' || d == '\t'
    if isInside c then
      let isText := !isBlank c.peek
      let (line, c) := c.takeWhile (!isBreak ·)
      let (last, c) := match c.lineBreak? with
        | some (b, c) => (some b, c)
        | none => (none, c)
      let (next, c) := blockBreaks indent (c.rest.length + 1) c
      if isInside c then
        let glue :=
          if folds && last == some '\n' && isText && !isBlank c.peek then if next.isEmpty then [' '] else []
          else last.toList
        let (others, last, after, c) := blockLines indent folds fuel next c
        (breaks ++ line ++ glue ++ others, last, after, c)
      else (breaks ++ line, last, next, c)
    else ([], none, breaks, c)

/-- A block scalar after its mark, inside of a collection with an indentation. -/
def blockScalar (outer : Nat) (folds : Bool) (c : Cursor) : Except ReadFault (List Char × Cursor) := do
  let (chomping, increment, c) ← blockSigns c
  let c ← c.finishLine
  let (indent, breaks, c) := match increment with
    | some n =>
      let indent := outer + n - 1
      let (breaks, c) := blockBreaks indent (c.rest.length + 1) c
      (indent, breaks, c)
    | none =>
      let (breaks, furthest, c) := blockIndentation (c.rest.length + 1) 0 c
      (max outer furthest, breaks, c)
  let (text, last, after, c) := blockLines indent folds (c.rest.length + 1) breaks c
  let ending := match chomping with
    | .strip => []
    | .clip => last.toList
    | .keep => last.toList ++ after
  return (text ++ ending, c)

end Cursor

end Yaml

end CaptureForest
