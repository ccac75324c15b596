import Mathlib.Tactic.Ring
import Mathlib.Tactic.SplitIfs
import RowMetrics.Binary64.Round

/-!
How a bit pattern is read. A pattern is its sign bit, eleven exponent bits and fifty-two
fraction bits, and `ofFields` gives back the fields it is built from when they fit. A finite
value is a whole multiple of `2 ^ -1074`, its scaled magnitude; that multiple grows with the
magnitude bits, so `orderKey` orders the finite patterns as their values are ordered, and puts
the infinities at the two ends.
-/

namespace RowMetrics

namespace Binary64

theorem isNegative_eq (x : Binary64) : x.isNegative = decide (2 ^ 63 ≤ x.bits.toNat) := by
  have hlt := x.bits.toNat_lt
  have hshift : (x.bits >>> 63).toNat = x.bits.toNat / 2 ^ 63 := by
    rw [UInt64.toNat_shiftRight]
    simp [Nat.shiftRight_eq_div_pow]
  unfold isNegative
  by_cases hb : 2 ^ 63 ≤ x.bits.toNat
  · have hone : x.bits >>> 63 = 1 := by
      apply UInt64.toNat_inj.mp
      rw [hshift]
      simp only [UInt64.toNat_one]
      omega
    simp only [hone, beq_self_eq_true, hb, decide_true]
  · have hzero : x.bits >>> 63 = 0 := by
      apply UInt64.toNat_inj.mp
      rw [hshift]
      simp only [UInt64.toNat_zero]
      omega
    simp only [hzero, hb, decide_false]
    decide

theorem biasedExponent_eq (x : Binary64) : x.biasedExponent = x.bits.toNat / 2 ^ 52 % 2048 := by
  unfold biasedExponent
  rw [UInt64.toNat_and, UInt64.toNat_shiftRight]
  simp only [Nat.shiftRight_eq_div_pow]
  exact Nat.and_two_pow_sub_one_eq_mod _ 11

theorem fraction_eq (x : Binary64) : x.fraction = x.bits.toNat % 2 ^ 52 := by
  unfold fraction
  rw [UInt64.toNat_and]
  exact Nat.and_two_pow_sub_one_eq_mod _ 52

theorem biasedExponent_lt (x : Binary64) : x.biasedExponent < 2048 := by
  rw [biasedExponent_eq]
  omega

theorem fraction_lt (x : Binary64) : x.fraction < 2 ^ 52 := by
  rw [fraction_eq]
  omega

theorem bits_toNat_eq (x : Binary64) :
    x.bits.toNat = (if x.isNegative then 2 ^ 63 else 0) + x.biasedExponent * 2 ^ 52 + x.fraction := by
  have hlt := x.bits.toNat_lt
  rw [isNegative_eq, biasedExponent_eq, fraction_eq]
  split_ifs with h <;> simp only [decide_eq_true_eq] at h <;> omega

theorem ofFields_fields (negative : Bool) {biased fraction : Nat} (hb : biased < 2048)
    (hf : fraction < 2 ^ 52) :
    (ofFields negative biased fraction).isNegative = negative ∧
      (ofFields negative biased fraction).biasedExponent = biased ∧
      (ofFields negative biased fraction).fraction = fraction := by
  have hbits : (ofFields negative biased fraction).bits.toNat =
      (if negative then 2 ^ 63 else 0) + biased * 2 ^ 52 + fraction := by
    unfold ofFields
    simp only [Nat.pow_eq]
    rw [UInt64.toNat_ofNat_of_lt']
    split_ifs <;> simp only [UInt64.size] <;> omega
  rw [isNegative_eq, biasedExponent_eq, fraction_eq, hbits]
  cases negative <;> simp <;> omega

/-- The magnitude bits: the pattern without its sign bit. -/
def magnitude (x : Binary64) : Nat := x.biasedExponent * 2 ^ 52 + x.fraction

theorem orderKey_eq (x : Binary64) :
    x.orderKey = if x.isNegative then -(x.magnitude : Int) else x.magnitude := by
  have hmask : (x.bits &&& 0x7FFFFFFFFFFFFFFF).toNat = x.magnitude := by
    rw [UInt64.toNat_and]
    rw [show (0x7FFFFFFFFFFFFFFF : UInt64).toNat = 2 ^ 63 - 1 from rfl,
      Nat.and_two_pow_sub_one_eq_mod, bits_toNat_eq, magnitude]
    have := fraction_lt x
    have := biasedExponent_lt x
    split_ifs <;> omega
  unfold orderKey
  rw [hmask]

theorem isNaN_eq_false_iff (x : Binary64) :
    x.isNaN = false ↔ x.biasedExponent ≠ 2047 ∨ x.fraction = 0 := by
  unfold isNaN
  by_cases hb : x.biasedExponent = 2047 <;> by_cases hf : x.fraction = 0 <;> simp [hb, hf]

theorem decode_eq_nan_iff (x : Binary64) : x.decode = .nan ↔ x.isNaN = true := by
  unfold decode isNaN
  by_cases hb : x.biasedExponent = 2047 <;> by_cases hf : x.fraction = 0 <;>
    by_cases hz : x.biasedExponent = 0 <;> simp [hb, hf, hz]

theorem decode_ne_nan {x : Binary64} (h : x.isNaN = false) : x.decode ≠ .nan := by
  rw [Ne, decode_eq_nan_iff, h]
  decide

theorem decode_eq_infinite_iff (x : Binary64) (s : Bool) :
    x.decode = .infinite s ↔ x.biasedExponent = 2047 ∧ x.fraction = 0 ∧ s = x.isNegative := by
  unfold decode
  by_cases hb : x.biasedExponent = 2047 <;> by_cases hf : x.fraction = 0 <;>
    by_cases hz : x.biasedExponent = 0 <;> simp [hb, hf, hz, eq_comm]

/-- The value of a finite pattern as a whole multiple of `2 ^ -1074`. -/
def scaledMagnitude (x : Binary64) : Nat :=
  if x.biasedExponent = 0 then x.fraction else (x.fraction + 2 ^ 52) * 2 ^ (x.biasedExponent - 1)

/-- What a finite reading says of the fields: its sign is the sign bit, its exponent is at
least `-1074`, and `m · 2 ^ e` is the scaled magnitude times `2 ^ -1074`. -/
theorem decode_finite {x : Binary64} {s : Bool} {m : Nat} {e : Int}
    (h : x.decode = .finite s m e) :
    s = x.isNegative ∧ x.biasedExponent < 2047 ∧ -1074 ≤ e ∧
      m * 2 ^ (e + 1074).toNat = x.scaledMagnitude := by
  have hlt := biasedExponent_lt x
  unfold decode at h
  split_ifs at h with hb hf hz
  · cases h
    exact ⟨rfl, by omega, le_refl _, by simp [scaledMagnitude, hz]⟩
  · cases h
    refine ⟨rfl, by omega, by omega, ?_⟩
    have hexp : ((x.biasedExponent : Int) - 1075 + 1074).toNat = x.biasedExponent - 1 := by
      omega
    simp only [scaledMagnitude, hz, if_false, Nat.pow_eq, hexp]

theorem scaledMagnitude_lt (x : Binary64) :
    x.scaledMagnitude < 2 ^ 52 * 2 ^ x.biasedExponent := by
  have hf := fraction_lt x
  unfold scaledMagnitude
  split_ifs with hb
  · rw [hb]
    omega
  · -- one factor `2` of the binade goes to the hidden bit
    have hpow : 2 ^ x.biasedExponent = 2 * 2 ^ (x.biasedExponent - 1) := by
      rw [← Nat.pow_succ']
      congr 1
      omega
    rw [hpow]
    have hpos := Nat.one_le_two_pow (n := x.biasedExponent - 1)
    calc (x.fraction + 2 ^ 52) * 2 ^ (x.biasedExponent - 1)
        < (2 ^ 52 + 2 ^ 52) * 2 ^ (x.biasedExponent - 1) :=
          Nat.mul_lt_mul_of_pos_right (by omega) hpos
      _ = 2 ^ 52 * (2 * 2 ^ (x.biasedExponent - 1)) := by ring

theorem le_scaledMagnitude (x : Binary64) (hb : x.biasedExponent ≠ 0) :
    2 ^ 52 * 2 ^ (x.biasedExponent - 1) ≤ x.scaledMagnitude := by
  simp only [scaledMagnitude, hb, if_false]
  exact Nat.mul_le_mul_right _ (Nat.le_add_left _ _)

theorem scaledMagnitude_lt_of_magnitude_lt {x y : Binary64} (h : x.magnitude < y.magnitude) :
    x.scaledMagnitude < y.scaledMagnitude := by
  have hfx := fraction_lt x
  have hfy := fraction_lt y
  unfold magnitude at h
  rcases Nat.lt_or_ge x.biasedExponent y.biasedExponent with hb | hb
  · -- a higher binade starts above the whole of a lower one
    calc x.scaledMagnitude < 2 ^ 52 * 2 ^ x.biasedExponent := scaledMagnitude_lt x
      _ ≤ 2 ^ 52 * 2 ^ (y.biasedExponent - 1) :=
          Nat.mul_le_mul_left _ (Nat.pow_le_pow_right (by decide) (by omega))
      _ ≤ y.scaledMagnitude := le_scaledMagnitude y (by omega)
  · -- within one binade the fraction decides
    have heq : x.biasedExponent = y.biasedExponent := by omega
    have hfrac : x.fraction < y.fraction := by omega
    unfold scaledMagnitude
    rw [heq]
    split_ifs
    · exact hfrac
    · exact Nat.mul_lt_mul_of_pos_right (by omega) (Nat.one_le_two_pow)

theorem scaledMagnitude_pos_iff (x : Binary64) :
    0 < x.scaledMagnitude ↔ 0 < x.magnitude := by
  have hpos := Nat.one_le_two_pow (n := x.biasedExponent - 1)
  unfold scaledMagnitude magnitude
  split_ifs with hb
  · simp [hb]
  · have := Nat.mul_pos (Nat.add_pos_right x.fraction (Nat.two_pow_pos 52)) hpos
    constructor <;> intro <;> omega

/-- The value of a finite pattern, signed, as a whole multiple of `2 ^ -1074`. -/
def signedScaled (x : Binary64) : Int :=
  if x.isNegative then -(x.scaledMagnitude : Int) else x.scaledMagnitude

/-- `orderKey` orders finite patterns as their values: both zeros are equal, and a larger
magnitude is further from zero. -/
theorem signedScaled_lt_of_orderKey_lt {x y : Binary64} (h : x.orderKey < y.orderKey) :
    x.signedScaled < y.signedScaled := by
  rw [orderKey_eq, orderKey_eq] at h
  unfold signedScaled
  cases hx : x.isNegative <;> cases hy : y.isNegative <;>
    simp only [hx, hy, Bool.false_eq_true, if_true, if_false] at h ⊢
  · exact Int.ofNat_lt.mpr (scaledMagnitude_lt_of_magnitude_lt (by omega))
  · omega
  · -- from below zero to above it: the two are not both zeros
    rcases Nat.eq_zero_or_pos x.magnitude with hmx | hmx
    · have := (scaledMagnitude_pos_iff y).mpr (by omega)
      omega
    · have := (scaledMagnitude_pos_iff x).mpr hmx
      omega
  · have := scaledMagnitude_lt_of_magnitude_lt (x := y) (y := x) (by omega)
    omega

theorem lt_eq_true_iff (x y : Binary64) :
    x.lt y = true ↔ x.isNaN = false ∧ y.isNaN = false ∧ x.orderKey < y.orderKey := by
  unfold lt
  simp only [Bool.and_eq_true, Bool.not_eq_eq_eq_not, Bool.not_true, decide_eq_true_eq, and_assoc]

theorem magnitude_le_of_not_isNaN {x : Binary64} (h : x.isNaN = false) :
    x.magnitude ≤ 2047 * 2 ^ 52 ∧ (x.magnitude = 2047 * 2 ^ 52 → x.biasedExponent = 2047) := by
  have hb := biasedExponent_lt x
  have hf := fraction_lt x
  rw [isNaN_eq_false_iff] at h
  unfold magnitude
  omega

end Binary64

end RowMetrics
