import CaptureForest.Fault.Basic
import CaptureForest.Number.Places
import CaptureForest.Text.Layout
/-!
# Placeholders

The text of a log message may hold placeholders for its arguments: a percent sign, then a name between
parentheses, flags, a width, a precision and a letter for the form, of which only the letter is needed.
Placeholders with names take their values from a map, the others take the arguments in turn.
-/

namespace CaptureForest

/-- A width or a precision: not there, written out, or taken from the arguments. -/
inductive Amount where
  | unset
  | fixed (n : Nat)
  | given
deriving DecidableEq, Repr, Inhabited

/-- The name in a placeholder. -/
inductive PlaceName where
  | absent
  | unclosed
  | named (name : String)
deriving DecidableEq, Repr, Inhabited

/-- A placeholder. There is no form if the text ends before it. -/
structure Placeholder where
  name : PlaceName := .absent
  flags : List Char := []
  width : Amount := .unset
  precision : Amount := .unset
  form : Option Char := none
deriving DecidableEq, Repr, Inhabited

/-- What a message is made of. A placeholder knows the place of its last character. -/
inductive MessagePart where
  | char (c : Char)
  | place (p : Placeholder) (last : Nat)
deriving DecidableEq, Repr

namespace Placeholder

def isDigit (c : Char) : Bool := '0' ≤ c && c ≤ '9'

def digitsValue (digits : List Char) : Nat := digits.foldl (fun n c => 10 * n + (c.toNat - 48)) 0

/-- The length of a name with its closing parenthesis; parentheses inside of it are balanced. -/
def nameLength? : Nat → List Char → Option Nat
  | _, [] => none
  | 0, ')' :: _ => some 1
  | depth + 1, ')' :: rest => (nameLength? depth rest).map (· + 1)
  | depth, '(' :: rest => (nameLength? (depth + 1) rest).map (· + 1)
  | depth, _ :: rest => (nameLength? depth rest).map (· + 1)

/-- The name at the start of a text, and its length. -/
def readName : List Char → PlaceName × Nat
  | '(' :: rest =>
    match nameLength? 0 rest with
    | some n => (.named (String.ofList (rest.take (n - 1))), n + 1)
    | none => (.unclosed, rest.length + 1)
  | _ => (.absent, 0)

/-- The amount at the start of a text, and its length. -/
def readAmount : List Char → Amount × Nat
  | '*' :: _ => (.given, 1)
  | s =>
    let digits := s.takeWhile isDigit
    if digits.isEmpty then (.unset, 0) else (.fixed (digitsValue digits), digits.length)

/-- The precision at the start of a text, which follows a point, and its length. -/
def readPrecision : List Char → Amount × Nat
  | '.' :: rest =>
    match readAmount rest with
    | (.unset, _) => (.fixed 0, 1)
    | (amount, n) => (amount, n + 1)
  | _ => (.unset, 0)

/-- The length of a mark for the size of numbers, which means nothing. -/
def sizeMark : List Char → Nat
  | c :: _ => if ['h', 'l', 'L'].contains c then 1 else 0
  | [] => 0

/-- The placeholder after a percent sign, and its length. -/
def read (s : List Char) : Placeholder × Nat :=
  let (name, n) := readName s
  let flags := (s.drop n).takeWhile ['-', '+', ' ', '#', '0'].contains
  let n := n + flags.length
  let (width, k) := readAmount (s.drop n)
  let n := n + k
  let (precision, k) := readPrecision (s.drop n)
  let n := n + k
  let n := n + sizeMark (s.drop n)
  ({ name, flags, width, precision, form := (s.drop n).head? }, n + 1)

def leftAligned (p : Placeholder) : Bool := p.flags.contains '-'
def signed (p : Placeholder) : Bool := p.flags.contains '+'
def spaced (p : Placeholder) : Bool := p.flags.contains ' '
def alternate (p : Placeholder) : Bool := p.flags.contains '#'
def zeroFilled (p : Placeholder) : Bool := p.flags.contains '0'

/-- The parts of a message, from a place on. Two percent signs stand for one. -/
def parts (place : Nat) : List Char → List MessagePart
  | [] => []
  | '%' :: '%' :: rest => .char '%' :: parts (place + 2) rest
  | '%' :: rest =>
    let (p, n) := read rest
    .place p (place + n) :: parts (place + 1 + n) (rest.drop n)
  | c :: rest => .char c :: parts (place + 1) rest
termination_by s => s.length
decreasing_by all_goals grind

/-! ### Forms of values -/

/-- A number as it is laid out: its sign, a mark for its base, its digits. -/
structure NumberText where
  negative : Bool
  mark : List Char := []
  digits : List Char
deriving Repr

def signChars (p : Placeholder) (negative : Bool) : List Char :=
  if negative then ['-'] else if p.signed then ['+'] else if p.spaced then [' '] else []

/-- Fills up to a width: zeros go between the sign and the digits, blanks before or behind all. -/
def layOut (p : Placeholder) (leftAligned : Bool) (width : Nat) (t : NumberText) : List Char :=
  let front := p.signChars t.negative ++ t.mark
  let lacking := width - (front.length + t.digits.length)
  if leftAligned then front ++ t.digits ++ List.replicate lacking ' '
  else if p.zeroFilled then front ++ List.replicate lacking '0' ++ t.digits
  else List.replicate lacking ' ' ++ front ++ t.digits

def layOutText (leftAligned : Bool) (width : Nat) (s : List Char) : List Char :=
  let blanks := List.replicate (width - s.length) ' '
  if leftAligned then s ++ blanks else blanks ++ s

/-- The whole number that a value is, not counting fractions. -/
def wholeNumber : Value → Except Fault Int
  | .bool b => .ok (if b then 1 else 0)
  | .int n => .ok n
  | _ => .error .wrongType

/-- The whole number that a value comes to when its fraction is dropped. -/
def truncated : Value → Except Fault Int
  | .float .nan => .error (.badValue "cannot convert float NaN to integer")
  | .float x =>
    match x.truncate? with
    | some n => .ok n
    | none => .error (.ofKind .overflow)
  | v => wholeNumber v

/-- The binary number that a value is. -/
def binary : Value → Except Fault Binary64
  | .float x => .ok x
  | v => do
    let x := Binary64.ofInt (← wholeNumber v)
    if x.isFinite then return x else throw (.ofKind .overflow)

def upper (s : List Char) : List Char := s.map Char.toUpper

/-- A whole number in a base, with at least as many digits as the precision. -/
def wholeText (p : Placeholder) (form : Char) (precision : Option Nat) (n : Int) : NumberText :=
  let base := if form = 'o' then 8 else if form = 'x' || form = 'X' then 16 else 10
  let digits := Nat.toDigits base n.natAbs
  let digits := Decimal.zeros (precision.getD 0 - digits.length) ++ digits
  let digits := if form = 'X' then upper digits else digits
  let mark := if p.alternate && base != 10 then ['0', form] else []
  ⟨n < 0, mark, digits⟩

def styleOf (form : Char) : DigitStyle :=
  match form.toLower with
  | 'e' => .scientific
  | 'f' => .fixed
  | _ => .general

def binaryText (p : Placeholder) (form : Char) (precision : Option Nat) (x : Binary64) : NumberText :=
  let text := (x.styledText (styleOf form) (precision.getD 6) p.alternate).toList
  let digits := if x.isNegative then text.drop 1 else text
  ⟨x.isNegative, [], if form.isUpper then upper digits else digits⟩

/-- The one character that a value is, by itself or by its code point. -/
def character (v : Value) : Except Fault Char :=
  match v.text? with
  | some s =>
    match s.toList with
    | [c] => .ok c
    | _ => .error .wrongType
  | none => do
    let n ← wholeNumber v
    if n < 0 || 0x110000 ≤ n then throw (.ofKind .overflow)
    return Char.ofNat n.toNat

def unsupported (form : Char) (place : Nat) : Fault :=
  let code := form.toNat
  let shown := if 31 ≤ code && code ≤ 126 then form else '?'
  .badValue <| "unsupported format character '" ++ String.singleton shown ++ "' (0x" ++
    String.ofList (Nat.toDigits 16 code) ++ ") at index " ++ toString place

/-- A value in the form that a placeholder asks for. -/
def formatted (p : Placeholder) (leftAligned : Bool) (width : Nat) (precision : Option Nat)
    (form : Char) (place : Nat) (v : Value) : Except Fault (List Char) :=
  let text (s : String) : List Char :=
    layOutText leftAligned width (match precision with
      | some n => s.toList.take n
      | none => s.toList)
  match form with
  | 's' => .ok (text v.plain)
  | 'r' => .ok (text v.quoted)
  | 'a' => .ok (text (Text.asciiOnly v.quoted))
  | 'd' | 'i' | 'u' => (truncated v).map fun n => p.layOut leftAligned width (p.wholeText form precision n)
  | 'o' | 'x' | 'X' => (wholeNumber v).map fun n => p.layOut leftAligned width (p.wholeText form precision n)
  | 'e' | 'E' | 'f' | 'F' | 'g' | 'G' =>
    (binary v).map fun x => p.layOut leftAligned width (p.binaryText form precision x)
  | 'c' => (character v).map fun c => layOutText leftAligned width [c]
  | _ => .error (unsupported form place)

/-! ### Taking arguments -/

/-- The arguments that are left, and the map from which names take their values. -/
structure Supply where
  fields : Option Pairs := none
  pending : List Value := []
deriving Repr

namespace Supply

/-- The arguments of a message. A single map with something in it is for names. -/
def ofArguments : List Value → Supply
  | [.map (pair :: pairs)] => ⟨some (pair :: pairs), [.map (pair :: pairs)]⟩
  | arguments => ⟨none, arguments⟩

def next (s : Supply) : Except Fault (Value × Supply) :=
  match s.pending with
  | v :: rest => .ok (v, { s with pending := rest })
  | [] => .error .wrongType

/-- The supply after the name of a placeholder, whose value comes next. -/
def choose (s : Supply) : PlaceName → Except Fault Supply
  | .absent => .ok s
  | .unclosed => if s.fields.isSome then .error (.badValue "incomplete format key") else .error .wrongType
  | .named name =>
    match s.fields with
    | none => .error .wrongType
    | some fields =>
      match Pairs.lookup? name fields with
      | some v => .ok { s with pending := [v] }
      | none => .error (.ofKind .key)

/-- An amount, which may be the next argument. -/
def amount (s : Supply) (greatest : Nat) (complaint : String) :
    Amount → Except Fault (Option Int × Supply)
  | .unset => .ok (none, s)
  | .fixed n => if n > greatest then .error (.badValue complaint) else .ok (some n, s)
  | .given => do
    let (v, s) ← s.next
    let n ← wholeNumber v
    if n.natAbs > greatest then throw (.ofKind .overflow)
    return (some n, s)

end Supply

/-- A placeholder filled in, and the supply that is left. A width less than zero aligns to the left. -/
def fill (p : Placeholder) (place : Nat) (s : Supply) : Except Fault (List Char × Supply) := do
  let s ← s.choose p.name
  let (width, s) ← s.amount (twoTo 63 - 1) "width too big" p.width
  let (precision, s) ← s.amount (twoTo 31 - 1) "precision too big" p.precision
  match p.form with
  | none => throw (.badValue "incomplete format")
  | some form =>
    let (v, s) ← s.next
    let width := width.getD 0
    let text ← p.formatted (p.leftAligned || width < 0) width.natAbs (precision.map Int.toNat) form place v
    return (text, s)

/-- The parts of a message filled in one after another. -/
def fillAll (s : Supply) : List MessagePart → Except Fault (List Char)
  | [] => if s.fields.isNone && !s.pending.isEmpty then .error .wrongType else .ok []
  | .char c :: rest => (fillAll s rest).map (c :: ·)
  | .place p last :: rest => do
    let (text, s) ← p.fill last s
    let others ← fillAll s rest
    return text ++ others

/-- A message with its arguments. Without arguments a percent sign stands for itself. -/
def message (text : String) (arguments : List Value) : Except Fault String :=
  if arguments.isEmpty then .ok text
  else (fillAll (.ofArguments arguments) (parts 0 text.toList)).map String.ofList

end Placeholder

end CaptureForest
