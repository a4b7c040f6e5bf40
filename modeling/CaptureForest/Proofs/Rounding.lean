import CaptureForest.Number.Binary64
import Mathlib.Algebra.Order.Field.Power
import Mathlib.Data.Nat.Cast.Order.Field
import Mathlib.Data.Rat.Cast.Order
import Mathlib.Tactic.FieldSimp
import Mathlib.Tactic.Linarith
import Mathlib.Tactic.NormNum
import Mathlib.Tactic.Positivity
import Mathlib.Tactic.Ring

/-!
# Rounding up

How much a number of the 64-bit format can exceed the quotient that it is rounded from.
The greatest power of two that is at most the quotient decides on the exponent, so that
half a unit of the mantissa is a `2 ^ 53`rd part of the quotient at most, or half of the
least number if the exponent is the least one.
-/

namespace CaptureForest

theorem twoTo_cast (n : Nat) : (twoTo n : ℚ) = 2 ^ n := Nat.cast_pow 2 n

/-- Rounding adds one half at most. -/
theorem roundHalfEven_le (num : Nat) {den : Nat} (hden : 0 < den) :
    (roundHalfEven num den : ℚ) ≤ num / den + 1 / 2 := by
  have hdivision : den * (num / den) + num % den = num := Nat.div_add_mod num den
  have hsucc : den * (num / den + 1) = den * (num / den) + den := Nat.mul_succ _ _
  have hnat : 2 * (den * roundHalfEven num den) ≤ 2 * num + den := by
    unfold roundHalfEven
    dsimp only
    split
    · omega
    · split
      · have hparity : den * (num / den + num / den % 2) ≤ den * (num / den + 1) :=
          Nat.mul_le_mul_left den (by omega)
        omega
      · omega
  have hrat : (2 * (den * roundHalfEven num den) : ℚ) ≤ 2 * num + den := by exact_mod_cast hnat
  have hpos : (0 : ℚ) < den := by exact_mod_cast hden
  have hsum : (num : ℚ) / den + 1 / 2 = (2 * num + den) / (2 * den) := by
    field_simp
  rw [hsum, le_div_iff₀ (by positivity)]
  linarith

namespace Binary64

theorem scaled_pos (num : Nat) {den : Nat} (hden : 0 < den) (shift : Int) :
    0 < (scaled num den shift).2 := by
  unfold scaled
  split
  · exact Nat.mul_pos hden (Nat.pow_pos (by decide))
  · exact hden

theorem scaled_eq (num den : Nat) (shift : Int) :
    ((scaled num den shift).1 : ℚ) / (scaled num den shift).2 = num / den * 2 ^ shift := by
  unfold scaled
  split
  · rename_i hneg
    have hshift : shift = -(shift.natAbs : Int) := by omega
    rw [hshift, zpow_neg, zpow_natCast, Int.natAbs_neg, Int.natAbs_natCast, Nat.cast_mul, twoTo_cast]
    rw [div_mul_eq_div_div, div_eq_mul_inv _ ((2 : ℚ) ^ _)]
  · rename_i hneg
    have hshift : shift = (shift.natAbs : Int) := by omega
    rw [hshift, zpow_natCast, Int.natAbs_natCast, Nat.cast_mul, twoTo_cast, mul_div_right_comm]

/-- The power of two that is found is at most the quotient. -/
theorem floorLog2_le {num den : Nat} (hnum : 0 < num) (hden : 0 < den) :
    (2 : ℚ) ^ floorLog2 num den ≤ num / den := by
  have hquotient : (0 : ℚ) < den := by exact_mod_cast hden
  have hguess := scaled_eq num den (-((num.log2 : Int) - den.log2))
  have hpos := scaled_pos num hden (-((num.log2 : Int) - den.log2))
  unfold floorLog2
  dsimp only
  split
  · rename_i hle
    have hone : (1 : ℚ) ≤ num / den * 2 ^ (-((num.log2 : Int) - den.log2)) := by
      rw [← hguess, one_le_div (by exact_mod_cast hpos)]
      exact_mod_cast hle
    rwa [zpow_neg, ← div_eq_mul_inv, one_le_div (by positivity)] at hone
  · have hlow : (2 : ℚ) ^ num.log2 ≤ num := by exact_mod_cast Nat.log2_self_le hnum.ne'
    have hhigh : (den : ℚ) ≤ 2 ^ (den.log2 + 1) := by exact_mod_cast Nat.lt_log2_self.le
    have hpower : (2 : ℚ) ^ ((num.log2 : Int) - den.log2 - 1) = 2 ^ num.log2 / 2 ^ (den.log2 + 1) := by
      rw [sub_sub, zpow_sub₀ (by norm_num), zpow_natCast]
      norm_cast
    rw [hpower]
    exact div_le_div₀ (by positivity) hlow hquotient hhigh

/-- What rounding makes of a magnitude at most. -/
def roundingLimit (q : ℚ) : ℚ := q * (1 + 2 ^ (-53 : ℤ)) + 2 ^ (-1075 : ℤ)

/-- The magnitude of the number, if it is finite, is at most the bound. -/
def IsAtMost (x : Binary64) (bound : ℚ) : Prop :=
  ∀ negative mantissa exponent, x = .finite negative mantissa exponent →
    (mantissa : ℚ) * 2 ^ exponent ≤ bound

/-- Half a unit of the mantissa. -/
theorem half_unit_le {num den : Nat} (hnum : 0 < num) (hden : 0 < den) :
    (2 : ℚ) ^ (max (floorLog2 num den - 52) leastExponent - 1) ≤
      num / den * 2 ^ (-53 : ℤ) + 2 ^ (-1075 : ℤ) := by
  rcases max_choice (floorLog2 num den - 52) leastExponent with hmax | hmax
  · have hunit : (2 : ℚ) ^ (floorLog2 num den - 52 - 1) =
        2 ^ floorLog2 num den * 2 ^ (-53 : ℤ) := by
      rw [sub_sub, sub_eq_add_neg, zpow_add₀ two_ne_zero]
      norm_num
    rw [hmax, hunit]
    have hfloor : (2 : ℚ) ^ floorLog2 num den * 2 ^ (-53 : ℤ) ≤ num / den * 2 ^ (-53 : ℤ) :=
      mul_le_mul_of_nonneg_right (floorLog2_le hnum hden) (by positivity)
    exact le_add_of_le_of_nonneg hfloor (by positivity)
  · rw [hmax]
    exact le_add_of_nonneg_left (by positivity)

/-- A mantissa that rounding has made too long is halved. -/
theorem value_of_carry {mantissa : Nat} {exponent : Int} {carried : Nat × Int}
    (h : (if mantissa = twoTo 53 then (twoTo 52, exponent + 1) else (mantissa, exponent)) = carried) :
    (carried.1 : ℚ) * 2 ^ carried.2 = mantissa * 2 ^ exponent := by
  subst h
  split
  · rename_i hcarry
    rw [hcarry, twoTo_cast, twoTo_cast, zpow_add₀ two_ne_zero]
    ring
  · rfl

theorem roundingLimit_mono {q q' : ℚ} (h : q ≤ q') : roundingLimit q ≤ roundingLimit q' := by
  unfold roundingLimit
  gcongr

theorem roundingLimit_nonneg {q : ℚ} (h : 0 ≤ q) : 0 ≤ roundingLimit q := by
  unfold roundingLimit
  positivity

theorem ofRatio_isAtMost (negative : Bool) (num : Nat) {den : Nat} (hden : 0 < den) :
    (ofRatio negative num den).IsAtMost (roundingLimit (num / den)) := by
  intro s m e h
  unfold ofRatio at h
  split at h
  · obtain ⟨-, rfl, -⟩ := Binary64.finite.inj h
    rw [Nat.cast_zero, zero_mul]
    exact roundingLimit_nonneg (by positivity)
  · rename_i hnum
    have hunit := half_unit_le (Nat.pos_of_ne_zero hnum) hden
    -- From here on it does not matter how the exponent was found, nor the mantissa.
    generalize max (floorLog2 num den - 52) leastExponent = exponent at h hunit
    have hround := roundHalfEven_le (scaled num den (-exponent)).1 (scaled_pos num hden (-exponent))
    rw [scaled_eq] at hround
    dsimp only at h
    generalize roundHalfEven (scaled num den (-exponent)).1 (scaled num den (-exponent)).2 =
      mantissa at h hround
    generalize hcarry : (if mantissa = twoTo 53 then (twoTo 52, exponent + 1)
      else (mantissa, exponent)) = carried at h
    split at h
    · exact absurd h Binary64.noConfusion
    · obtain ⟨-, rfl, rfl⟩ := Binary64.finite.inj h
      calc (carried.1 : ℚ) * 2 ^ carried.2
          = mantissa * 2 ^ exponent := value_of_carry hcarry
        _ ≤ (num / den * 2 ^ (-exponent) + 1 / 2) * 2 ^ exponent :=
            mul_le_mul_of_nonneg_right hround (by positivity)
        _ = num / den + 2 ^ (exponent - 1) := by
            rw [zpow_neg, zpow_sub_one₀ two_ne_zero]
            field_simp
        _ ≤ num / den + (num / den * 2 ^ (-53 : ℤ) + 2 ^ (-1075 : ℤ)) := by linarith
        _ = roundingLimit (num / den) := by
            rw [roundingLimit]
            ring

theorem exists_eq_finite_of_mul {x y : Binary64} {negative : Bool} {mantissa : Nat} {exponent : Int}
    (h : x.mul y = .finite negative mantissa exponent) :
    ∃ s m e t n f, x = .finite s m e ∧ y = .finite t n f := by
  cases x <;> cases y <;> simp_all [Binary64.mul]
  all_goals split at h <;> simp_all

/-- A product of numbers, like a quotient, is rounded once. -/
theorem IsAtMost.mul {x y : Binary64} {a b : ℚ} (hx : x.IsAtMost a) (hy : y.IsAtMost b)
    (ha : 0 ≤ a) :
    (x.mul y).IsAtMost (roundingLimit (a * b)) := by
  intro negative mantissa exponent h
  obtain ⟨s, m, e, t, n, f, rfl, rfl⟩ := exists_eq_finite_of_mul h
  have hproduct : (m : ℚ) * 2 ^ e * (n * 2 ^ f) ≤ a * b :=
    mul_le_mul (hx s m e rfl) (hy t n f rfl) (by positivity) ha
  have hrounded := ofRatio_isAtMost (s != t) (scaled (m * n) 1 (e + f)).1
    (scaled_pos (m * n) Nat.one_pos (e + f)) negative mantissa exponent h
  have hratio : ((scaled (m * n) 1 (e + f)).1 : ℚ) / (scaled (m * n) 1 (e + f)).2 =
      m * 2 ^ e * (n * 2 ^ f) := by
    rw [scaled_eq, Nat.cast_one, div_one, Nat.cast_mul, zpow_add₀ two_ne_zero]
    ring
  rw [hratio] at hrounded
  exact hrounded.trans (roundingLimit_mono hproduct)

/-- Rounding toward zero does not exceed a bound of the magnitude. -/
theorem IsAtMost.truncate {x : Binary64} {bound : ℚ} (h : x.IsAtMost bound) (hbound : 0 ≤ bound) :
    ((x.truncate?.getD 0 : Int) : ℚ) ≤ bound := by
  cases x with
  | finite negative m e =>
      have hvalue : ((ratio m e).1 : ℚ) / (ratio m e).2 = m * 2 ^ e := by
        rw [ratio, scaled_eq, Nat.cast_one, div_one]
      have hfloor : (((ratio m e).1 / (ratio m e).2 : Nat) : ℚ) ≤ bound :=
        (Nat.cast_div_le).trans (hvalue.trans_le (h negative m e rfl))
      change (((if negative then _ else _ : Int)) : ℚ) ≤ bound
      split
      · rw [Int.cast_neg, Int.cast_natCast]
        exact (neg_nonpos.mpr (Nat.cast_nonneg _)).trans hbound
      · rwa [Int.cast_natCast]
  | _ => simpa [truncate?] using hbound

end Binary64

end CaptureForest
