import Mathlib.Data.Rat.Floor
import Mathlib.Tactic.Linarith
import RowMetrics.Binary64.Integral
import RowMetrics.Proofs.Binary64Rounding

/-!
Rounding half up, read on values. A finite number is `± num / den`, with the mantissa shifted by
the positive part of the exponent over two to the negative part, and `roundHalfUp` works on the
whole part and the remainder of that quotient. That is the floor of the value plus one half when
the value is not negative, `-0` included, and the floor of the value when it is negative, both
saturated into the signed 64-bit range (`round_half_up_floors`). A remainder of at least half
the divisor is exactly what carries the floor of `x + 1/2` past the whole part, and a negative
value with a remainder goes one further down.
-/

namespace RowMetrics

theorem Int.toInt_saturate64 (n : Int) :
    (Int.saturate64 n).toInt = max (-2 ^ 63) (min n (2 ^ 63 - 1)) := by
  have hpow : Int.pow 2 63 = 2 ^ 63 := rfl
  unfold Int.saturate64
  rw [hpow]
  split_ifs with hlo hhi
  · rw [Int64.toInt_ofInt_of_le (by omega) (by omega)]
    omega
  · rw [Int64.toInt_ofInt_of_le (by omega) (by omega)]
    omega
  · rw [Int64.toInt_ofInt_of_le (by omega) (by omega)]
    omega

namespace Binary64

theorem natCast_div_eq (num den : Nat) (hden : 0 < den) :
    (num : ℚ) / den = (num / den : Nat) + (num % den : Nat) / den := by
  have hd : (den : ℚ) ≠ 0 := by exact_mod_cast hden.ne'
  have hsum : ((den * (num / den) + num % den : Nat) : ℚ) = num := by
    exact_mod_cast Nat.div_add_mod num den
  push_cast at hsum
  rw [← hsum, add_div, mul_div_cancel_left₀ _ hd]

theorem frac_bounds (num den : Nat) (hden : 0 < den) :
    0 ≤ ((num % den : Nat) : ℚ) / den ∧ ((num % den : Nat) : ℚ) / den < 1 ∧
      ((1 : ℚ) / 2 ≤ ((num % den : Nat) : ℚ) / den ↔ den ≤ 2 * (num % den)) ∧
      (((num % den : Nat) : ℚ) / den = 0 ↔ num % den = 0) := by
  have hd : (0 : ℚ) < den := by exact_mod_cast hden
  have hr : ((num % den : Nat) : ℚ) < den := by exact_mod_cast Nat.mod_lt num hden
  refine ⟨by positivity, (div_lt_one hd).mpr hr, ?_, ?_⟩
  · rw [div_le_div_iff₀ (by norm_num) hd]
    constructor <;> intro h
    · exact_mod_cast (show ((den : ℚ)) ≤ 2 * (num % den : Nat) by linarith)
    · have : ((den : Nat) : ℚ) ≤ ((2 * (num % den) : Nat) : ℚ) := by exact_mod_cast h
      push_cast at this
      linarith
  · rw [div_eq_zero_iff]
    simp [hd.ne']

theorem floor_div_add_half (num den : Nat) (hden : 0 < den) :
    ⌊(num : ℚ) / den + 1 / 2⌋ =
      ((num / den + if den ≤ 2 * (num % den) then 1 else 0 : Nat) : Int) := by
  obtain ⟨h0, h1, hhalf, -⟩ := frac_bounds num den hden
  rw [Int.floor_eq_iff, natCast_div_eq num den hden]
  split_ifs with h
  · have := hhalf.mpr h
    simp only [Nat.cast_add, Nat.cast_one, Int.cast_add, Int.cast_natCast, Int.cast_one]
    constructor <;> linarith
  · have : ((num % den : Nat) : ℚ) / den < 1 / 2 := lt_of_not_ge (mt hhalf.mp h)
    simp only [Nat.cast_add, Nat.cast_zero, Int.cast_add, Int.cast_natCast, Int.cast_zero]
    constructor <;> linarith

theorem floor_neg_div (num den : Nat) (hden : 0 < den) :
    ⌊-((num : ℚ) / den)⌋ = -((num / den + if num % den = 0 then 0 else 1 : Nat) : Int) := by
  obtain ⟨h0, h1, -, hzero⟩ := frac_bounds num den hden
  rw [Int.floor_eq_iff, natCast_div_eq num den hden]
  split_ifs with h
  · rw [hzero.mpr h]
    simp only [Nat.cast_add, Nat.cast_zero, Int.cast_neg, Int.cast_add, Int.cast_natCast,
      Int.cast_zero]
    constructor <;> linarith
  · have : 0 < ((num % den : Nat) : ℚ) / den := lt_of_le_of_ne h0 (Ne.symm (mt hzero.mp h))
    simp only [Nat.cast_add, Nat.cast_one, Int.cast_neg, Int.cast_add, Int.cast_natCast,
      Int.cast_one]
    constructor <;> linarith

/-- The value of a finite bit pattern, `± m · 2 ^ e`; NaNs and infinities have none. -/
def toRat? (x : Binary64) : Option ℚ :=
  match x.decode with
  | .finite negative m e => some ((if negative then -1 else 1) * m * 2 ^ e)
  | _ => none

example : toRat? ⟨0x4004000000000000⟩ = some (5 / 2) := by
  have hd : decode ⟨0x4004000000000000⟩ = .finite false (5 * 2 ^ 50) (-51) := by decide
  rw [toRat?, hd]
  norm_num

theorem toRat?_eq_some {x : Binary64} {q : ℚ} (h : x.toRat? = some q) :
    ∃ negative m e, x.decode = .finite negative m e ∧
      q = (if negative then -1 else 1) * m * 2 ^ e := by
  unfold toRat? at h
  cases hd : x.decode with
  | finite negative m e =>
    rw [hd] at h
    exact ⟨negative, m, e, rfl, (Option.some.inj h).symm⟩
  | nan => rw [hd] at h; cases h
  | infinite negative => rw [hd] at h; cases h

theorem mantissa_mul_zpow (m : Nat) (e : Int) :
    (m : ℚ) * 2 ^ e = ((m * Nat.pow 2 e.toNat : Nat) : ℚ) / ((Nat.pow 2 (-e).toNat : Nat) : ℚ) := by
  have hbridge := two_zpow_mul e 0
  simp only [sub_zero, zero_sub] at hbridge
  have hpos : (0 : ℚ) < 2 ^ (-e).toNat := by positivity
  simp only [Nat.pow_eq, Nat.cast_mul, Nat.cast_pow, Nat.cast_ofNat]
  rw [eq_div_iff hpos.ne', mul_assoc, hbridge]

/-- Rounding a finite pattern half up, read on its value: the floor of the value plus one half
when the sign bit is clear, and the floor of the value when it is set, saturated. -/
theorem toInt_roundHalfUp_of_finite {x : Binary64} {negative : Bool} {m : Nat} {e : Int}
    (h : x.decode = .finite negative m e) :
    x.roundHalfUp.toInt = max (-2 ^ 63) (min
      (if negative then ⌊-((m : ℚ) * 2 ^ e)⌋ else ⌊(m : ℚ) * 2 ^ e + 1 / 2⌋) (2 ^ 63 - 1)) := by
  have hden : 0 < Nat.pow 2 (-e).toNat := Nat.two_pow_pos _
  unfold roundHalfUp
  rw [h]
  dsimp only
  rw [mantissa_mul_zpow]
  cases negative with
  | false =>
    simp only [Bool.false_eq_true, if_false]
    rw [Int.toInt_saturate64, floor_div_add_half _ _ hden]
  | true =>
    simp only [if_true]
    rw [Int.toInt_saturate64, floor_neg_div _ _ hden]

theorem toInt_roundHalfUp_of_infinite {x : Binary64} {negative : Bool}
    (h : x.decode = .infinite negative) :
    x.roundHalfUp.toInt = if negative then -2 ^ 63 else 2 ^ 63 - 1 := by
  unfold roundHalfUp
  rw [h]
  cases negative with
  | false =>
    simp only [Bool.false_eq_true, if_false, Int.toInt_saturate64]
    rfl
  | true =>
    simp only [if_true, Int.toInt_saturate64]
    rfl

/-- Rounding half up read on values: a finite number that is not negative (so also `-0`) goes
to `⌊x + 1/2⌋` and a negative one to `⌊x⌋`, each saturated into the signed 64-bit range; `+∞`
and `-∞` go to the two ends of that range and a NaN to zero. -/
structure RoundsHalfUp (x : Binary64) : Prop where
  of_nonneg : ∀ q, x.toRat? = some q → 0 ≤ q →
    x.roundHalfUp.toInt = max (-2 ^ 63) (min ⌊q + 1 / 2⌋ (2 ^ 63 - 1))
  of_neg : ∀ q, x.toRat? = some q → q < 0 →
    x.roundHalfUp.toInt = max (-2 ^ 63) (min ⌊q⌋ (2 ^ 63 - 1))
  of_top : x.decode = .infinite false → x.roundHalfUp.toInt = 2 ^ 63 - 1
  of_bottom : x.decode = .infinite true → x.roundHalfUp.toInt = -2 ^ 63
  of_nan : x.isNaN = true → x.roundHalfUp = 0

theorem round_half_up_floors (x : Binary64) : RoundsHalfUp x where
  of_nonneg q hq hnn := by
    obtain ⟨negative, m, e, hd, rfl⟩ := toRat?_eq_some hq
    rw [toInt_roundHalfUp_of_finite hd]
    cases negative with
    | false => simp
    | true =>
      -- a set sign bit with a value that is not negative is `-0`: both sides are zero
      have hpos : (0 : ℚ) ≤ (m : ℚ) * 2 ^ e := by positivity
      have hzero : (m : ℚ) * 2 ^ e = 0 := by
        simp only [if_true, neg_mul, one_mul] at hnn
        linarith
      simp only [if_true, neg_mul, one_mul, hzero, neg_zero, zero_add]
      norm_num
  of_neg q hq hneg := by
    obtain ⟨negative, m, e, hd, rfl⟩ := toRat?_eq_some hq
    rw [toInt_roundHalfUp_of_finite hd]
    cases negative with
    | false =>
      have hpos : (0 : ℚ) ≤ (m : ℚ) * 2 ^ e := by positivity
      simp only [Bool.false_eq_true, if_false, one_mul] at hneg
      linarith
    | true => simp
  of_top h := toInt_roundHalfUp_of_infinite h
  of_bottom h := toInt_roundHalfUp_of_infinite h
  of_nan h := by
    unfold roundHalfUp
    rw [(decode_eq_nan_iff x).mpr h]

end Binary64

end RowMetrics
