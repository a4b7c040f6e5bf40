import CaptureForest.Number.Binary64
/-!
# Decimal texts of numbers

The shortest digits that read back as the same binary number, and the text of a number built from them.
All computation is on natural numbers.
-/

namespace CaptureForest

/-- The digits of a positive number and the place of its decimal point: `0.d₁d₂d₃… * 10 ^ point`. -/
structure Decimal where
  digits : List Char
  point : Int
deriving DecidableEq, Repr, Inhabited

namespace Decimal

def natDigits (n : Nat) : List Char := Nat.toDigits 10 n

/-- Where the decimal point of `num / den` stands: `10 ^ (point - 1) ≤ num / den < 10 ^ point`. -/
def pointOf (num den : Nat) : Int :=
  if den ≤ num then (natDigits (num / den)).length
  else
    let quotient := (den + num - 1) / num
    1 - ((natDigits (quotient - 1)).length : Int)

/-- A quotient scaled by a power of ten. -/
def scaledTen (num den : Nat) (shift : Int) : Nat × Nat :=
  if shift < 0 then (num, den * tenTo shift.natAbs) else (num * tenTo shift.natAbs, den)

/-- The interval of quotients that round to `mantissa * 2 ^ exponent`, as numerators over a common
denominator: the number, its lower and its upper end. Below a power of two the gap is halved. -/
def roundingInterval (mantissa : Nat) (exponent : Int) : Nat × Nat × Nat × Nat :=
  let lowerGap := if mantissa = twoTo 52 && exponent > Binary64.leastExponent then 1 else 2
  let up := twoTo (exponent - 2).toNat
  (4 * mantissa * up, (4 * mantissa - lowerGap) * up, (4 * mantissa + 2) * up, twoTo (2 - exponent).toNat)

/-- The number of the grid of multiples of `10 ^ place` that reads back as the given number and is
nearest to it, if there is one. -/
def gridPoint? (mantissa : Nat) (exponent place : Int) : Option Nat :=
  let (value, low, high, den) := roundingInterval mantissa exponent
  let (n, d) := scaledTen value den (-place)
  let below := n / d
  let inside (c : Nat) : Bool :=
    let (cn, cd) := scaledTen c 1 place
    let x := cn * den
    if mantissa % 2 = 0 then low * cd ≤ x && x ≤ high * cd else low * cd < x && x < high * cd
  match inside below, inside (below + 1) with
  | true, true =>
    let rest := 2 * (n % d)
    some (if rest < d then below else if rest = d then below + below % 2 else below + 1)
  | true, false => some below
  | false, true => some (below + 1)
  | false, false => none

def dropTrailingZeros (digits : List Char) : List Char :=
  (digits.reverse.dropWhile (· == '0')).reverse

/-- The fewest digits that read back as `mantissa * 2 ^ exponent`, and of those the nearest. -/
def shortest (mantissa : Nat) (exponent : Int) : Decimal :=
  let (value, _, _, den) := roundingInterval mantissa exponent
  let point := pointOf value den
  let found := (List.range 17).findSome? fun count =>
    let place := point - (count + 1 : Nat)
    (gridPoint? mantissa exponent place).map fun c => (c, place)
  match found with
  | some (c, place) =>
    let digits := natDigits c
    ⟨dropTrailingZeros digits, place + digits.length⟩
  | none => ⟨['0'], 1⟩

def zeros (n : Nat) : List Char := List.replicate n '0'

/-- Digits with a point, a zero standing for an empty part. -/
def positional (d : Decimal) : List Char :=
  if d.point ≤ 0 then '0' :: '.' :: zeros d.point.natAbs ++ d.digits
  else
    let whole := d.point.toNat
    if d.digits.length ≤ whole then d.digits ++ zeros (whole - d.digits.length) ++ ['.', '0']
    else d.digits.take whole ++ '.' :: d.digits.drop whole

/-- The exponent of ten with its sign and at least two digits. -/
def exponentText (n : Int) : List Char :=
  let digits := natDigits n.natAbs
  (if n < 0 then '-' else '+') :: zeros (2 - digits.length) ++ digits

/-- One digit, the further digits after a point if there are any, and the exponent of ten. -/
def scientific (d : Decimal) : List Char :=
  let tail := d.digits.drop 1
  d.digits.take 1 ++ (if tail.isEmpty then [] else '.' :: tail) ++ 'e' :: exponentText (d.point - 1)

end Decimal

namespace Binary64

def signText (negative : Bool) : List Char := if negative then ['-'] else []

/-- The text of a number: positional from `0.0001` up to, and not with, `10 ^ 16`, else scientific. -/
def text : Binary64 → String
  | .nan => "nan"
  | .infinity negative => if negative then "-inf" else "inf"
  | .finite negative mantissa exponent =>
    let body :=
      if mantissa = 0 then ['0', '.', '0']
      else
        let d := Decimal.shortest mantissa exponent
        if -4 < d.point && d.point ≤ 16 then d.positional else d.scientific
    String.ofList (signText negative ++ body)

end Binary64

end CaptureForest
