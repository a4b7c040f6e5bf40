/-!
# Binary floating point numbers

The numbers of the 64-bit binary format as exact data: a finite number is a sign, a mantissa below
`2 ^ 53` and an exponent of two, and every operation rounds an exact quotient of natural numbers to
the nearest representable number, a tie going to the even mantissa.
-/

namespace CaptureForest

/-- A number of the 64-bit binary format. A finite number stands for `± mantissa * 2 ^ exponent`; its
mantissa has 53 bits unless the exponent is the least one, `-1074`. -/
inductive Binary64 where
  | nan
  | infinity (negative : Bool)
  | finite (negative : Bool) (mantissa : Nat) (exponent : Int)
deriving DecidableEq, Repr, Inhabited

/-- A power of two. -/
def twoTo (n : Nat) : Nat := Nat.pow 2 n

/-- A power of ten. -/
def tenTo (n : Nat) : Nat := Nat.pow 10 n

/-- A quotient rounded to the nearest integer, a half going to the even neighbour. -/
def roundHalfEven (num den : Nat) : Nat :=
  let quotient := num / den
  let rest := num % den
  if 2 * rest < den then quotient
  else if 2 * rest = den then quotient + quotient % 2
  else quotient + 1

namespace Binary64

def leastExponent : Int := -1074

def zero (negative : Bool) : Binary64 := .finite negative 0 leastExponent

/-- `num / den` scaled by `2 ^ shift`, as a quotient of natural numbers. -/
def scaled (num den : Nat) (shift : Int) : Nat × Nat :=
  if shift < 0 then (num, den * twoTo shift.natAbs) else (num * twoTo shift.natAbs, den)

/-- The exponent of the greatest power of two that is at most `num / den`. -/
def floorLog2 (num den : Nat) : Int :=
  let guess : Int := (num.log2 : Int) - den.log2
  let (n, d) := scaled num den (-guess)
  if d ≤ n then guess else guess - 1

/-- The representable number nearest to `± num / den`. -/
def ofRatio (negative : Bool) (num den : Nat) : Binary64 :=
  if num = 0 then zero negative
  else
    let exponent := max (floorLog2 num den - 52) leastExponent
    let (n, d) := scaled num den (-exponent)
    let mantissa := roundHalfEven n d
    let (mantissa, exponent) :=
      if mantissa = twoTo 53 then (twoTo 52, exponent + 1) else (mantissa, exponent)
    if exponent > 971 then .infinity negative else .finite negative mantissa exponent

def ofInt (n : Int) : Binary64 := ofRatio (n < 0) n.natAbs 1

/-- The representable number nearest to `± digits * 10 ^ exponent`, where `digits` is written with
`count` digits. Far outside the range the answer is known without computing the power. -/
def ofDecimal (negative : Bool) (digits count : Nat) (exponent : Int) : Binary64 :=
  if digits = 0 then zero negative
  else if exponent > 400 then .infinity negative
  else if exponent + count < -400 then zero negative
  else if exponent < 0 then ofRatio negative digits (tenTo exponent.natAbs)
  else ofRatio negative (digits * tenTo exponent.natAbs) 1

/-- The magnitude of `mantissa * 2 ^ exponent` as a quotient of natural numbers. -/
def ratio (mantissa : Nat) (exponent : Int) : Nat × Nat := scaled mantissa 1 exponent

def isFinite : Binary64 → Bool
  | .finite .. => true
  | _ => false

def isZero : Binary64 → Bool
  | .finite _ mantissa _ => mantissa == 0
  | _ => false

def isNegative : Binary64 → Bool
  | .nan => false
  | .infinity negative => negative
  | .finite negative _ _ => negative

def mul : Binary64 → Binary64 → Binary64
  | .finite s m e, .finite t n f =>
    let (num, den) := ratio (m * n) (e + f)
    ofRatio (s != t) num den
  | .nan, _ | _, .nan => .nan
  | .infinity s, .infinity t => .infinity (s != t)
  | .infinity s, .finite t n _ => if n = 0 then .nan else .infinity (s != t)
  | .finite s m _, .infinity t => if m = 0 then .nan else .infinity (s != t)

def neg : Binary64 → Binary64
  | .nan => .nan
  | .infinity negative => .infinity !negative
  | .finite negative mantissa exponent => .finite (!negative) mantissa exponent

/-- The magnitude of a finite number with its sign, over the power `2 ^ 1074` of the denominator. -/
def scaledInt (negative : Bool) (mantissa : Nat) (exponent : Int) : Int :=
  let n : Nat := mantissa * twoTo (exponent - leastExponent).toNat
  if negative then -(n : Int) else n

def add : Binary64 → Binary64 → Binary64
  | .finite s m e, .finite t n f =>
    let sum := scaledInt s m e + scaledInt t n f
    if sum = 0 then zero (s && t) else ofRatio (sum < 0) sum.natAbs (twoTo leastExponent.natAbs)
  | .nan, _ | _, .nan => .nan
  | .infinity s, .infinity t => if s = t then .infinity s else .nan
  | .infinity s, _ => .infinity s
  | _, .infinity t => .infinity t

/-- The integer nearest to zero between zero and the number; `none` if the number is not finite. -/
def truncate? : Binary64 → Option Int
  | .finite negative mantissa exponent =>
    let (num, den) := ratio mantissa exponent
    some (if negative then -((num / den : Nat) : Int) else (num / den : Nat))
  | _ => none

/-- The integer that a number equals, if it is whole. -/
def toInt? : Binary64 → Option Int
  | .finite negative mantissa exponent =>
    let (num, den) := ratio mantissa exponent
    if num % den = 0 then some (if negative then -((num / den : Nat) : Int) else (num / den : Nat)) else none
  | _ => none

/-- Equality of numbers: a NaN equals nothing, and the two zeros are equal. -/
def numericEq : Binary64 → Binary64 → Bool
  | .nan, _ | _, .nan => false
  | .infinity s, .infinity t => s == t
  | .finite s m e, .finite t n f => (m == 0 && n == 0) || (s == t && m == n && e == f)
  | _, _ => false

/-- The number rounded to a number of decimal places, a tie going to the even digit. -/
def roundPlaces (places : Nat) : Binary64 → Binary64
  | .finite negative mantissa exponent =>
    let (num, den) := ratio mantissa exponent
    ofRatio negative (roundHalfEven (num * tenTo places) den) (tenTo places)
  | x => x

end Binary64

end CaptureForest
