import CaptureForest.Number.Binary64
import CaptureForest.Text.Alphanumeric
import CaptureForest.Text.Layout
import CaptureForest.Text.LowerCase
/-!
# Numbers as text

Numbers as people write them: blanks around the number do not count, a sign may come first, the digits
may be of any script, and single underscores may stand between digits. A whole number may be written in
any base up to 36, in three of them with a mark for the base.
-/

namespace CaptureForest.Text

/-- The value of a decimal digit of any script. The digits of a script stand side by side. -/
def decimalValue? (c : Char) : Option Nat :=
  (decimalRanges.find? fun r => r.1 ≤ c.toNat && c.toNat ≤ r.2).map fun r => (c.toNat - r.1) % 10

/-- The value of a digit of a base: a decimal digit, or a letter from ten on. -/
def digitValue? (base : Nat) (c : Char) : Option Nat :=
  let value :=
    if 'a' ≤ c && c ≤ 'z' then some (c.toNat - 'a'.toNat + 10)
    else if 'A' ≤ c && c ≤ 'Z' then some (c.toNat - 'A'.toNat + 10)
    else decimalValue? c
  value.filter (· < base)

/-- Digits with single underscores between them, after a number that was already read. -/
def digitsAfter (base n : Nat) : List Char → Option Nat
  | [] => some n
  | '_' :: c :: rest => (digitValue? base c).bind fun d => digitsAfter base (base * n + d) rest
  | c :: rest => (digitValue? base c).bind fun d => digitsAfter base (base * n + d) rest

def digits (base : Nat) : List Char → Option Nat
  | [] => none
  | c :: rest => (digitValue? base c).bind fun d => digitsAfter base d rest

/-- The letter that marks a base after a zero. -/
def baseMark? : Nat → Option Char
  | 2 => some 'b'
  | 8 => some 'o'
  | 16 => some 'x'
  | _ => none

/-- The digits after the mark of a base, if there is one. -/
def dropBaseMark (base : Nat) (s : List Char) : List Char :=
  match s with
  | '0' :: m :: '_' :: rest => if baseMark? base == some m.toLower then rest else s
  | '0' :: m :: rest => if baseMark? base == some m.toLower then rest else s
  | _ => s

/-- Whether a number is negative, and the text after its sign. -/
def splitSign : List Char → Bool × List Char
  | '-' :: rest => (true, rest)
  | '+' :: rest => (false, rest)
  | s => (false, s)

/-- The whole number that a text stands for in a base. -/
def integerIn? (base : Nat) (s : String) : Option Int :=
  let (negative, unsigned) := splitSign (trimBoth isBlank s.toList)
  (digits base (dropBaseMark base unsigned)).map fun n => if negative then -(n : Int) else n

/-- The whole number that a text stands for. -/
def integer? (s : String) : Option Int := integerIn? 10 s

/-- Decimal digits with single underscores between them: their value and their number. -/
def decimalDigits? (s : List Char) : Option (Nat × Nat) :=
  if s.isEmpty then some (0, 0) else (digits 10 s).map fun n => (n, (s.filter isDecimal).length)

/-- The exponent of a number, with its sign. -/
def exponent? : List Char → Option Int
  | [] => some 0
  | e :: rest =>
    if e.toLower = 'e' then
      let (negative, digits) := splitSign rest
      (Text.digits 10 digits).map fun n => if negative then -(n : Int) else n
    else none

/-- The binary number nearest to the number that a text stands for. -/
def binary64? (s : String) : Option Binary64 :=
  let (negative, body) := splitSign (trimBoth isBlank s.toList)
  let word := lower (String.ofList body)
  if word = "inf" || word = "infinity" then some (.infinity negative)
  else if word = "nan" then some .nan
  else
    let mantissa := body.takeWhile fun c => c.toLower != 'e'
    let whole := mantissa.takeWhile (· != '.')
    let fraction := mantissa.drop (whole.length + 1)
    match decimalDigits? whole, decimalDigits? fraction, exponent? (body.drop mantissa.length) with
    | some (m, i), some (n, k), some e =>
      if i + k = 0 then none
      else some (.ofDecimal negative (m * tenTo k + n) (i + k) (e - k))
    | _, _, _ => none

end CaptureForest.Text
