import CaptureForest.Pairs
import CaptureForest.Fault.Basic
import CaptureForest.Number.Integer
/-!
# Reading JSON

A reader for JSON texts, which also takes the three numbers that are not finite. A malformed text is
refused with what was expected and where, by line, column and offset. Of two members with one name the
later value is kept, at the place of the earlier.

Parsers take the characters that are left. A complaint carries the number of characters that were left
where it arose, so that its place follows from the length of the whole text.
-/

namespace CaptureForest

namespace Json

/-- What is wrong with a text, and how many characters were left there. -/
structure Complaint where
  problem : String
  left : Nat
deriving DecidableEq, Repr

abbrev Parsed (α : Type) := Except Complaint (α × List Char)

def complain {α : Type} (problem : String) (rest : List Char) : Except Complaint α :=
  .error ⟨problem, rest.length⟩

def isSpace (c : Char) : Bool := c == ' ' || c == '\t' || c == '\n' || c == '\r'

def skipSpace (s : List Char) : List Char := s.dropWhile isSpace

/-! ## Strings -/

def hexValue? (c : Char) : Option Nat :=
  if '0' ≤ c && c ≤ '9' then some (c.toNat - '0'.toNat)
  else if 'a' ≤ c && c ≤ 'f' then some (c.toNat - 'a'.toNat + 10)
  else if 'A' ≤ c && c ≤ 'F' then some (c.toNat - 'A'.toNat + 10)
  else none

/-- The number that hexadecimal digits spell. -/
def hexNumber? (digits : List Char) : Option Nat :=
  digits.foldlM (fun n c => (hexValue? c).map fun d => 16 * n + d) 0

/-- Four hexadecimal digits that are not the last characters. -/
def fourHex? (s : List Char) : Option Nat :=
  if s.length ≤ 4 then none else hexNumber? (s.take 4)

def isHighSurrogate (n : Nat) : Bool := 0xD800 ≤ n && n < 0xDC00

def isLowSurrogate (n : Nat) : Bool := 0xDC00 ≤ n && n < 0xE000

/-- The character with a code unit. Half of a pair that stands alone is no character; each of them has
one of its own for private use. -/
def unitChar (n : Nat) : Char :=
  if 0xD800 ≤ n && n < 0xE000 then Char.ofNat (0x100000 + n) else Char.ofNat n

/-- The character that a one-letter escape stands for. -/
def simpleEscape? : Char → Option Char
  | '"' => some '"'
  | '\\' => some '\\'
  | '/' => some '/'
  | 'b' => some '\x08'
  | 'f' => some '\x0c'
  | 'n' => some '\n'
  | 'r' => some '\r'
  | 't' => some '\t'
  | _ => none

/-- Reads an escape by number after its letter `u`; two escapes in a row can make one character. -/
def unitEscape (afterU : List Char) (fromU : List Char) : Parsed Char :=
  let problem := "Invalid \\uXXXX escape"
  match fourHex? afterU with
  | none => complain problem fromU
  | some n =>
    let rest := afterU.drop 4
    if isHighSurrogate n && 6 < rest.length && rest.take 2 == ['\\', 'u'] then
      match hexNumber? ((rest.drop 2).take 4) with
      | none => complain problem (rest.drop 1)
      | some m =>
        if isLowSurrogate m then
          .ok (Char.ofNat (0x10000 + (n - 0xD800) * 0x400 + (m - 0xDC00)), rest.drop 6)
        else .ok (unitChar n, rest)
    else .ok (unitChar n, rest)

/-- Reads a string after its opening quote; `opening` is what is left from that quote on. -/
def stringBody (opening : List Char) : Nat → List Char → List Char → Parsed String
  | 0, _, _ => complain "Unterminated string starting at" opening
  | fuel + 1, read, s =>
    match s with
    | [] => complain "Unterminated string starting at" opening
    | '"' :: rest => .ok (String.ofList read.reverse, rest)
    | '\\' :: rest =>
      match rest with
      | [] => complain "Unterminated string starting at" opening
      | 'u' :: afterU =>
        match unitEscape afterU rest with
        | .error e => .error e
        | .ok (c, rest) => stringBody opening fuel (c :: read) rest
      | letter :: after =>
        match simpleEscape? letter with
        | some c => stringBody opening fuel (c :: read) after
        | none => complain "Invalid \\escape" s
    | c :: rest =>
      if c.toNat < 0x20 then complain "Invalid control character at" s
      else stringBody opening fuel (c :: read) rest

def string (opening : List Char) : Parsed String :=
  stringBody opening (opening.length + 1) [] (opening.drop 1)

/-! ## Numbers -/

def isDigit (c : Char) : Bool := '0' ≤ c && c ≤ '9'

def digitsValue (digits : List Char) : Nat := digits.foldl (fun n c => 10 * n + (c.toNat - '0'.toNat)) 0

/-- The digits after a point, if a point with a digit follows. -/
def fraction (s : List Char) : List Char × List Char :=
  match s with
  | '.' :: rest =>
    let digits := rest.takeWhile isDigit
    if digits.isEmpty then ([], s) else (digits, rest.dropWhile isDigit)
  | _ => ([], s)

/-- The exponent, if one with a digit follows. -/
def exponent (s : List Char) : Option Int × List Char :=
  match s with
  | e :: rest =>
    if e == 'e' || e == 'E' then
      let (negative, rest) :=
        match rest with
        | '-' :: rest => (true, rest)
        | '+' :: rest => (false, rest)
        | rest => (false, rest)
      let digits := rest.takeWhile isDigit
      if digits.isEmpty then (none, s)
      else
        let n := digitsValue digits
        (some (if negative then -n else n), rest.dropWhile isDigit)
    else (none, s)
  | [] => (none, s)

/-- The digits before the point: a zero alone, or digits that do not begin with zero. -/
def wholePart (s : List Char) : List Char × List Char :=
  match s with
  | '0' :: rest => (['0'], rest)
  | _ => (s.takeWhile isDigit, s.dropWhile isDigit)

def number (s : List Char) : Parsed Value :=
  let (negative, unsigned) :=
    match s with
    | '-' :: rest => (true, rest)
    | _ => (false, s)
  let (whole, rest) := wholePart unsigned
  if whole.isEmpty then complain "Expecting value" s
  else
    let (decimals, rest) := fraction rest
    let (power, rest) := exponent rest
    if decimals.isEmpty && power.isNone then
      let n : Int := digitsValue whole
      .ok (.int (if negative then -n else n), rest)
    else
      let digits := whole ++ decimals
      let scale := power.getD 0 - decimals.length
      .ok (.float (.ofDecimal negative (digitsValue digits) digits.length scale), rest)

/-! ## Values -/

/-- The words that are values. -/
def words : List (List Char × Value) := [
  ("null".toList, .none),
  ("true".toList, .bool true),
  ("false".toList, .bool false),
  ("NaN".toList, .float .nan),
  ("Infinity".toList, .float (.infinity false)),
  ("-Infinity".toList, .float (.infinity true))]

def word? (s : List Char) : Option (Value × List Char) :=
  (words.find? fun entry => entry.1.isPrefixOf s).map fun entry => (entry.2, s.drop entry.1.length)

mutual

/-- Reads a value. -/
def value : Nat → List Char → Parsed Value
  | 0, s => complain "Expecting value" s
  | fuel + 1, s =>
    match s with
    | [] => complain "Expecting value" s
    | '"' :: _ =>
      match string s with
      | .ok (text, rest) => .ok (.str text, rest)
      | .error e => .error e
    | '\x7b' :: rest =>
      match skipSpace rest with
      | '\x7d' :: rest => .ok (.map [], rest)
      | rest => members fuel [] rest
    | '[' :: rest =>
      match skipSpace rest with
      | ']' :: rest => .ok (.list [], rest)
      | rest => elements fuel [] rest
    | _ =>
      match word? s with
      | some found => .ok found
      | none => number s

/-- Reads the elements of an array that are left. -/
def elements : Nat → List Value → List Char → Parsed Value
  | 0, _, s => complain "Expecting value" s
  | fuel + 1, read, s =>
    match value fuel s with
    | .error e => .error e
    | .ok (v, rest) =>
      match skipSpace rest with
      | ']' :: rest => .ok (.list (v :: read).reverse, rest)
      | ',' :: rest => elements fuel (v :: read) (skipSpace rest)
      | rest => complain "Expecting ',' delimiter" rest

/-- Reads the members of an object that are left. -/
def members : Nat → Pairs → List Char → Parsed Value
  | 0, _, s => complain "Expecting value" s
  | fuel + 1, read, s =>
    match s with
    | '"' :: _ =>
      match string s with
      | .error e => .error e
      | .ok (name, rest) =>
        match skipSpace rest with
        | ':' :: rest =>
          match value fuel (skipSpace rest) with
          | .error e => .error e
          | .ok (v, rest) =>
            let read := Pairs.insert (.str name) v read
            match skipSpace rest with
            | '\x7d' :: rest => .ok (.map read, rest)
            | ',' :: rest => members fuel read (skipSpace rest)
            | rest => complain "Expecting ',' delimiter" rest
        | rest => complain "Expecting ':' delimiter" rest
    | _ => complain "Expecting property name enclosed in double quotes" s

end

/-- Where a complaint arose: the line, the column and the offset. -/
def place (text : List Char) (left : Nat) : Nat × Nat × Nat :=
  let before := text.take (text.length - left)
  let column := (before.reverse.takeWhile (· != '\n')).length + 1
  (before.count '\n' + 1, column, before.length)

def Complaint.text (c : Complaint) (source : List Char) : String :=
  let (line, column, offset) := place source c.left
  s!"{c.problem}: line {line} column {column} (char {offset})"

/-- Reads a whole text. -/
def readChars (s : List Char) : Except Complaint Value :=
  match s with
  | '\uFEFF' :: _ => complain "Unexpected UTF-8 BOM (decode using utf-8-sig)" s
  | _ =>
    match value (2 * s.length + 2) (skipSpace s) with
    | .error e => .error e
    | .ok (v, rest) =>
      match skipSpace rest with
      | [] => .ok v
      | rest => complain "Extra data" rest

end Json

end CaptureForest
