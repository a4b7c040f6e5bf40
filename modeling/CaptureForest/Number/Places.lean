import CaptureForest.Number.Decimal
/-!
# Numbers with a given count of digits

The texts of numbers for a count of digits that is asked for: scientific with a number of places, fixed
with a number of places, or whichever of the two suits the size of the number. A half goes to the even
digit.
-/

namespace CaptureForest

namespace Decimal

/-- The number `num / den`, which is not zero, rounded to a count of digits that is not zero. -/
def rounded (num den count : Nat) : Decimal :=
  let point := pointOf num den
  let (n, d) := scaledTen num den (count - point)
  let digits := natDigits (roundHalfEven n d)
  ⟨digits.take count, point + (digits.length - count : Nat)⟩

/-- One digit, the others after a point, and the exponent of ten. With `pointed` there is a point even
if no digit follows it. -/
def exponential (pointed : Bool) (d : Decimal) : List Char :=
  let fraction := d.digits.drop 1
  let point := if fraction.isEmpty && !pointed then [] else ['.']
  d.digits.take 1 ++ point ++ fraction ++ 'e' :: exponentText (d.point - 1)

/-- Digits with a point where it belongs. With `pointed` there is a point even if no digit follows it. -/
def plainly (pointed : Bool) (d : Decimal) : List Char :=
  let whole := d.point.toNat
  let digits := zeros (1 - d.point).toNat ++ d.digits ++ zeros (whole - d.digits.length)
  let count := max whole 1
  let fraction := digits.drop count
  let point := if fraction.isEmpty && !pointed then [] else ['.']
  digits.take count ++ point ++ fraction

end Decimal

/-- The ways to write a number with a given count of digits. -/
inductive DigitStyle where
  | fixed
  | scientific
  | general
deriving DecidableEq, Repr

namespace Binary64

/-- The digits of a magnitude to a count. Zero has zeros only. -/
def digitsOf (mantissa : Nat) (exponent : Int) (count : Nat) : Decimal :=
  if mantissa = 0 then ⟨Decimal.zeros count, 1⟩
  else
    let (num, den) := ratio mantissa exponent
    Decimal.rounded num den count

/-- A magnitude to a count of digits, in scientific form if its exponent is less than -4 or not less
than the count. Zeros at the end are kept only with `pointed`. -/
def generalChars (pointed : Bool) (count mantissa : Nat) (exponent : Int) : List Char :=
  let count := max count 1
  let d := digitsOf mantissa exponent count
  let kept :=
    if pointed then d else ⟨d.digits.take 1 ++ Decimal.dropTrailingZeros (d.digits.drop 1), d.point⟩
  if d.point < -3 || (count : Int) < d.point then kept.exponential pointed else kept.plainly pointed

def fixedChars (pointed : Bool) (places mantissa : Nat) (exponent : Int) : List Char :=
  let (num, den) := ratio mantissa exponent
  let digits := Decimal.natDigits (roundHalfEven (num * tenTo places) den)
  let digits := Decimal.zeros (places + 1 - digits.length) ++ digits
  let whole := digits.length - places
  let point := if places = 0 && !pointed then [] else ['.']
  digits.take whole ++ point ++ digits.drop whole

/-- The text of a number in a style. The count is of places after the point, or of all digits in the
general style. -/
def styledText (style : DigitStyle) (count : Nat) (pointed : Bool) : Binary64 → String
  | .nan => "nan"
  | .infinity negative => if negative then "-inf" else "inf"
  | .finite negative mantissa exponent =>
    let body := match style with
      | .fixed => fixedChars pointed count mantissa exponent
      | .scientific => (digitsOf mantissa exponent (count + 1)).exponential pointed
      | .general => generalChars pointed count mantissa exponent
    String.ofList (signText negative ++ body)

end Binary64

end CaptureForest
