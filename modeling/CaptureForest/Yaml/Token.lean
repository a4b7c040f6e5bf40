import CaptureForest.Yaml.Passage
/-!
# Tokens of YAML texts

A text as the signs and scalars that it consists of. Indentation makes tokens as well: a deeper column
opens a block, and a shallower one closes it. That a scalar or a flow collection is a key shows only at
the colon after it, so each place where a key could begin is kept until the colon comes or until it can
no longer come, which is at the end of the line or 1024 characters later.
-/

namespace CaptureForest

namespace Yaml

inductive Token where
  | version (major : Nat)
  | tagHandle (handle start : String)
  | otherDirective
  | documentStart
  | documentEnd
  | textEnd
  | blockListStart
  | blockMapStart
  | blockEnd
  | flowListStart
  | flowListEnd
  | flowMapStart
  | flowMapEnd
  | blockEntry
  | flowEntry
  | key
  | value
  | alias (name : String)
  | anchor (name : String)
  | tag (handle : Option String) (suffix : String)
  | scalar (text : String) (isPlain : Bool)
  | broken (fault : ReadFault)
deriving BEq, Repr, Inhabited

/-- A place where a key could begin: the number of its token and its position. A required key cannot
turn out to be something else. -/
structure PossibleKey where
  token : Nat
  isRequired : Bool
  index : Nat
  line : Nat
  column : Nat
deriving Repr

/-- What is known after a part of a text. The tokens are kept last first, the columns of the open blocks
innermost first, and the possible keys by the depth of flow collections, innermost first. -/
structure Lexer where
  cursor : Cursor
  tokens : List Token := []
  count : Nat := 0
  indents : List Nat := []
  keys : List (Option PossibleKey) := [none]
  mayBeginKey : Bool := true

namespace Lexer

abbrev Step := Lexer → Except ReadFault Lexer

def inFlow (s : Lexer) : Bool := 1 < s.keys.length

def add (t : Token) (s : Lexer) : Lexer := { s with tokens := t :: s.tokens, count := s.count + 1 }

/-- Puts a token before the one with a number. -/
def insertAt (number : Nat) (t : Token) (s : Lexer) : Lexer :=
  let later := s.count - number
  { s with tokens := s.tokens.take later ++ t :: s.tokens.drop later, count := s.count + 1 }

def moveTo (c : Cursor) (s : Lexer) : Lexer := { s with cursor := c }

/-- Goes on by a number of characters, for which a token stands. -/
def take (n : Nat) (t : Token) (s : Lexer) : Lexer := (s.moveTo (s.cursor.skip n)).add t

def column (s : Lexer) : Nat := s.cursor.column

/-- Skips blanks, comments and line breaks. Outside of flow collections a key may begin on a new line. -/
def skipToToken : Nat → Lexer → Lexer
  | 0, s => s
  | fuel + 1, s =>
    let c := s.cursor.skipBlanks.skipComment
    match c.lineBreak? with
    | some (_, c) => skipToToken fuel { s with cursor := c, mayBeginKey := s.mayBeginKey || !s.inFlow }
    | none => s.moveTo c

/-- Gives up the places where no key can be any more. -/
def dropStale (s : Lexer) : Except ReadFault Lexer :=
  let isStale (k : PossibleKey) : Bool := k.line != s.cursor.line || k.index + 1024 < s.cursor.index
  if s.keys.any fun key => key.any fun k => isStale k && k.isRequired then .error .malformed
  else .ok { s with keys := s.keys.map fun key => key.filter (!isStale ·) }

/-- Gives up the possible key of the present depth. -/
def dropKey (s : Lexer) : Except ReadFault Lexer :=
  match s.keys with
  | some k :: rest => if k.isRequired then .error .malformed else .ok { s with keys := none :: rest }
  | _ => .ok s

/-- Notes that a key could begin here. -/
def noteKey (s : Lexer) : Except ReadFault Lexer :=
  if s.mayBeginKey then
    match s.dropKey with
    | .error e => .error e
    | .ok s =>
      let key : PossibleKey := {
        token := s.count
        isRequired := !s.inFlow && s.indents.head? == some s.column
        index := s.cursor.index
        line := s.cursor.line
        column := s.column }
      .ok { s with keys := some key :: s.keys.tail }
  else .ok s

/-- Closes the blocks whose columns are not reached, or all of them. -/
def closeBlocks (column : Option Nat) : List Nat → Lexer → Lexer
  | [], s => { s with indents := [] }
  | indent :: rest, s =>
    if column.all (· < indent) then closeBlocks column rest (s.add .blockEnd)
    else { s with indents := indent :: rest }

def closeTo (column : Option Nat) (s : Lexer) : Lexer :=
  if s.inFlow then s else closeBlocks column s.indents s

/-- Whether a column is further right than the innermost block. -/
def isDeeper (s : Lexer) (column : Nat) : Bool := s.indents.head?.all (· < column)

/-- Opens a block in a column that is further right than the innermost one. -/
def openBlock (t : Token) (s : Lexer) : Lexer :=
  if s.isDeeper s.column then { s.add t with indents := s.column :: s.indents } else s

def dropKeyThen (mayBeginKey : Bool) (f : Lexer → Lexer) : Step := fun s =>
  match s.dropKey with
  | .ok s => .ok { f s with mayBeginKey }
  | .error e => .error e

/-! ## Signs -/

/-- A mark between documents, at which all blocks end. -/
def documentMark (t : Token) : Step := fun s => (s.closeTo none |> dropKeyThen false (take 3 t))

def flowStart (t : Token) : Step := fun s =>
  match s.noteKey with
  | .ok s => .ok { s.take 1 t with keys := none :: s.keys, mayBeginKey := true }
  | .error e => .error e

def flowEnd (t : Token) : Step := fun s =>
  match s.dropKey with
  | .error e => .error e
  | .ok s =>
    match s.keys with
    | _ :: outer :: others => .ok { s.take 1 t with keys := outer :: others, mayBeginKey := false }
    | _ => .error .malformed

/-- Opens a block for an entry or a key, where one may stand. -/
def beginEntry (t : Token) (s : Lexer) : Except ReadFault Lexer :=
  if s.inFlow then .ok s else if s.mayBeginKey then .ok (s.openBlock t) else .error .malformed

def blockEntry : Step := fun s =>
  match s.beginEntry .blockListStart with
  | .ok s => dropKeyThen true (take 1 .blockEntry) s
  | .error e => .error e

def keySign : Step := fun s =>
  match s.beginEntry .blockMapStart with
  | .ok s => dropKeyThen (!s.inFlow) (take 1 .key) s
  | .error e => .error e

/-- The colon after a key, or before a value without a key. -/
def valueSign : Step := fun s =>
  match s.keys with
  | some k :: rest =>
    let s := { s with keys := none :: rest, mayBeginKey := false }
    let s := s.insertAt k.token .key
    let s :=
      if !s.inFlow && s.isDeeper k.column then
        { s.insertAt k.token .blockMapStart with indents := k.column :: s.indents }
      else s
    .ok (s.take 1 .value)
  | _ =>
    match s.beginEntry .blockMapStart with
    | .ok s => dropKeyThen (!s.inFlow) (take 1 .value) s
    | .error e => .error e

/-! ## Names -/

def isNameChar (c : Char) : Bool :=
  isDigit c || ('A' ≤ c && c ≤ 'Z') || ('a' ≤ c && c ≤ 'z') || c == '-' || c == '_'

def isEndOrBlank (c : Char) : Bool := isGap c && c != '\t'

/-- The name after the sign of an anchor or an alias. -/
def name (c : Cursor) : Except ReadFault (String × Cursor) :=
  let (chars, c) := c.next.takeWhile isNameChar
  if chars.isEmpty || !(isGap c.peek || "?:,]\x7d%@\x60".toList.contains c.peek) then .error .malformed
  else .ok (String.ofList chars, c)

/-- A short form of the first part of tags: a sign, or a name between two signs. -/
def handle (c : Cursor) : Except ReadFault (String × Cursor) :=
  if c.peek = '!' then
    if c.peek 1 = ' ' then .ok ("!", c.next)
    else
      let (chars, c) := c.next.takeWhile isNameChar
      if c.peek = '!' then .ok ("!" ++ String.ofList chars ++ "!", c.next) else .error .malformed
  else .error .malformed

def isUriChar (c : Char) : Bool :=
  (isNameChar c || ";/?:@&=+$,.!~*'()[]".toList.contains c) && c != '%'

/-- Bytes written with two digits each after percent signs. -/
def percentBytes : Nat → Cursor → Except ReadFault (List UInt8 × Cursor)
  | 0, c => .ok ([], c)
  | fuel + 1, c =>
    if c.peek = '%' then
      match Text.digitValue? 16 (c.peek 1), Text.digitValue? 16 (c.peek 2) with
      | some a, some b =>
        if (c.peek 1).toNat < 128 && (c.peek 2).toNat < 128 then
          match percentBytes fuel (c.skip 3) with
          | .ok (others, c) => .ok ((16 * a + b).toUInt8 :: others, c)
          | .error e => .error e
        else .error .malformed
      | _, _ => .error .malformed
    else .ok ([], c)

/-- The characters of a tag, some of which may be written as bytes. -/
def uriChars : Nat → Cursor → Except ReadFault (String × Cursor)
  | 0, c => .ok ("", c)
  | fuel + 1, c =>
    if c.peek = '%' then
      match percentBytes (c.rest.length + 1) c with
      | .error e => .error e
      | .ok (octets, c) =>
        match String.fromUTF8? ⟨octets.toArray⟩ with
        | none => .error .malformed
        | some text =>
          match uriChars fuel c with
          | .ok (others, c) => .ok (text ++ others, c)
          | .error e => .error e
    else
      let (chars, c) := c.takeWhile isUriChar
      if chars.isEmpty then .ok ("", c)
      else
        match uriChars fuel c with
        | .ok (others, c) => .ok (String.ofList chars ++ others, c)
        | .error e => .error e

def uri (c : Cursor) : Except ReadFault (String × Cursor) :=
  if isUriChar c.peek || c.peek = '%' then uriChars (c.rest.length + 1) c else .error .malformed

/-- A tag in one of its forms: in full, alone, or with a handle. -/
def tagText (c : Cursor) : Except ReadFault (Token × Cursor) := do
  let (t, c) ←
    if c.peek 1 = '<' then do
      let (suffix, c) ← uri (c.skip 2)
      if c.peek = '>' then pure (Token.tag none suffix, c.next) else .error .malformed
    else if isGap (c.peek 1) then pure (Token.tag none "!", c.next)
    else do
      let word := c.next.rest.takeWhile (!isEndOrBlank ·)
      let (h, c) ← if word.contains '!' then handle c else pure ("!", c.next)
      let (suffix, c) ← uri c
      pure (Token.tag (some h) suffix, c)
  if isEndOrBlank c.peek then return (t, c) else .error .malformed

/-! ## Directives -/

def number (c : Cursor) : Except ReadFault (Nat × Cursor) :=
  let (chars, c) := c.takeWhile isDigit
  match Text.digits 10 chars with
  | some n => .ok (n, c)
  | none => .error .malformed

/-- A line with a percent sign, which says something about the document to come. -/
def directiveText (c : Cursor) : Except ReadFault (Token × Cursor) := do
  let (chars, c) := c.next.takeWhile isNameChar
  if chars.isEmpty || !isEndOrBlank c.peek then .error .malformed
  let (t, c) ←
    match String.ofList chars with
    | "YAML" => do
      let (major, c) ← number c.skipBlanks
      if c.peek != '.' then .error .malformed
      let (_, c) ← number c.next
      if isEndOrBlank c.peek then pure (Token.version major, c) else .error .malformed
    | "TAG" => do
      let (h, c) ← handle c.skipBlanks
      if c.peek != ' ' then .error .malformed
      let (start, c) ← uri c.skipBlanks
      if isEndOrBlank c.peek then pure (Token.tagHandle h start, c) else .error .malformed
    | _ => pure (Token.otherDirective, c.skipWhile (!isBreak ·))
  let c ← c.finishLine
  return (t, c)

def directive : Step := fun s => do
  let s ← (s.closeTo none).dropKey
  let (t, c) ← directiveText s.cursor
  return { (s.moveTo c).add t with mayBeginKey := false }

/-! ## Scalars and names as tokens -/

/-- A token with a text of its own, which may be a key. -/
def named (read : Cursor → Except ReadFault (Token × Cursor)) : Step := fun s => do
  let s ← s.noteKey
  let (t, c) ← read s.cursor
  return { (s.moveTo c).add t with mayBeginKey := false }

def quoted (isDouble : Bool) (c : Cursor) : Except ReadFault (Token × Cursor) := do
  let (chars, c) ← c.next.quotedScalar isDouble (c.rest.length + 1)
  return (.scalar (String.ofList chars) false, c)

/-- The column in which lines inside of the innermost block begin at the earliest. -/
def innerColumn (s : Lexer) : Nat :=
  match s.indents with
  | indent :: _ => indent + 1
  | [] => 0

def block (folds : Bool) : Step := fun s => do
  let s ← s.dropKey
  let (chars, c) ← s.cursor.next.blockScalar (max s.innerColumn 1) folds
  return { (s.moveTo c).add (.scalar (String.ofList chars) false) with mayBeginKey := true }

def plain : Step := fun s => do
  let s ← s.noteKey
  let c := s.cursor
  let (chars, passed, c) := c.plainScalar s.inFlow s.innerColumn (c.rest.length + 1) [] false
  return { (s.moveTo c).add (.scalar (String.ofList chars) true) with mayBeginKey := passed }

/-- Whether a plain scalar begins here. -/
def beginsPlain (s : Lexer) : Bool :=
  let d := s.cursor.peek
  let isSign := "-?:,[]\x7b\x7d#&*!|>'\"%@\x60".toList.contains d
  if isGap d then false
  else if isSign then
    !isGap (s.cursor.peek 1) && (d == '-' || (!s.inFlow && (d == '?' || d == ':')))
  else true

/-- Reads the token that begins here, and what it implies. -/
def step : Step := fun s =>
  let c := s.cursor
  let standsAlone := isGap (c.peek 1)
  match c.peek with
  | '[' => flowStart .flowListStart s
  | '\x7b' => flowStart .flowMapStart s
  | ']' => flowEnd .flowListEnd s
  | '\x7d' => flowEnd .flowMapEnd s
  | ',' => dropKeyThen true (take 1 .flowEntry) s
  | '*' => named (fun c => (name c).map fun (n, c) => (.alias n, c)) s
  | '&' => named (fun c => (name c).map fun (n, c) => (.anchor n, c)) s
  | '!' => named tagText s
  | '\'' => named (quoted false) s
  | '"' => named (quoted true) s
  | d =>
    if d = '%' && c.column = 0 then directive s
    else if d = '-' && c.column = 0 && c.atMark '-' then documentMark .documentStart s
    else if d = '.' && c.column = 0 && c.atMark '.' then documentMark .documentEnd s
    else if d = '-' && standsAlone then blockEntry s
    else if d = '?' && (s.inFlow || standsAlone) then keySign s
    else if d = ':' && (s.inFlow || standsAlone) then valueSign s
    else if d = '|' && !s.inFlow then block false s
    else if d = '>' && !s.inFlow then block true s
    else if s.beginsPlain then plain s
    else .error .malformed

/-- Closes what is open at the end of the text. -/
def finish : Step := fun s => do
  let s ← (s.closeTo none).dropKey
  return s.add .textEnd

/-- Ends the tokens with a fault. A token where a key could begin is not known before what follows it was
read, so it is not among them. -/
def stop (fault : ReadFault) (s : Lexer) : List Token :=
  let known := s.keys.foldl (fun n key => key.elim n fun k => min n k.token) s.count
  s.tokens.reverse.take known ++ [.broken fault]

/-- Reads the next token of a text, before which blocks may end. -/
def advance : Step := fun s =>
  match (s.skipToToken (s.cursor.rest.length + 1)).dropStale with
  | .error fault => .error fault
  | .ok s =>
    let s := s.closeTo (some s.column)
    if s.cursor.atEnd then s.finish else s.step

/-- Reads on to the end of the text. Where that is not possible the tokens end with the fault. -/
def run : Nat → Lexer → List Token
  | 0, s => s.stop .malformed
  | fuel + 1, s =>
    match s.dropStale with
    | .error fault => s.stop fault
    | .ok s =>
      match s.advance with
      | .error fault => s.stop fault
      | .ok next => if next.tokens.head? == some .textEnd then next.tokens.reverse else run fuel next

end Lexer

/-- The tokens of a text. A byte order mark at its beginning does not count. -/
def tokens (text : String) : List Token :=
  let c : Cursor := ⟨text.toList, 0, 0, 0⟩
  let c := if c.peek = '\ufeff' then c.next else c
  Lexer.run (text.length + 1) { cursor := c }

end Yaml

end CaptureForest
