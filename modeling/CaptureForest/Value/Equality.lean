import CaptureForest.Value.Basic
/-!
# Equality of values

When two values count as the same key. Numbers compare across kinds, so `1`, `1.0` and `true` are one
key, and a word of the two word types equals the text that spells it. Lists and tuples compare item by
item; maps compare as sets of pairs, whatever their order.
-/

namespace CaptureForest

namespace Value

/-- The number that a value stands for, as an integer or as a binary number that is not whole. -/
def number? : Value → Option (Int ⊕ Binary64)
  | .bool b => some (.inl (if b then 1 else 0))
  | .int n => some (.inl n)
  | .float x => some (match x.toInt? with | some n => .inl n | .none => .inr x)
  | _ => .none

/-- Equality of values that hold no others. -/
def scalarSame (a b : Value) : Bool :=
  match a.number?, b.number? with
  | some (.inl m), some (.inl n) => m == n
  | some (.inr x), some (.inr y) => x.numericEq y
  | some _, some _ => false
  | _, _ =>
    match a.text?, b.text? with
    | some s, some t => s == t
    | _, _ =>
      match a, b with
      | .none, .none => true
      | .bytes s, .bytes t => s == t
      | .callable c, .callable d => c == d
      | .path p, .path q => p == q
      | .foreign k s _, .foreign l t _ => k == l && s == t
      | _, _ => false

mutual

/-- Whether two values count as the same. -/
def same : Value → Value → Bool
  | .list xs, .list ys => sameItems xs ys
  | .tuple xs, .tuple ys => sameItems xs ys
  | .map ps, .map qs => ps.length == qs.length && includedIn ps qs
  | .node m ps, .node n qs => same m n && ps.length == qs.length && includedIn ps qs
  | a, b => scalarSame a b

def sameItems : List Value → List Value → Bool
  | [], [] => true
  | x :: xs, y :: ys => same x y && sameItems xs ys
  | _, _ => false

/-- Every pair of the first list is found in the second. -/
def includedIn : List (Value × Value) → List (Value × Value) → Bool
  | [], _ => true
  | (k, v) :: rest, others =>
    (others.any fun other => same k other.1 && same v other.2) && includedIn rest others

end

/-- Whether a value is the given text, or a word spelled like it. -/
def isWord (v : Value) (word : String) : Bool := v.text? == some word

/-- Whether a value is one of the given words. -/
def isAmong (words : List String) (v : Value) : Bool := v.text?.any words.contains

end Value

end CaptureForest
