import RowMetrics.Proofs.Binary64Rounding
import RowMetrics.Proofs.RateStoreMap

/-!
Rates are never negative. Once time has passed, as binary64 arithmetic measures it, a rate
between two numbers exists and has the kind of the new value. An integer rate is zero unless
the value grew, and otherwise the rounded quotient of a positive difference by a positive
time, so it is never negative, whatever the magnitudes, infinities or NaNs on the old side. A
float rate is `+0` unless the new value is above the old one, and otherwise the quotient of a
positive difference by a positive time: its sign bit is clear and it is no NaN. It can still be
`+0`, for a quotient below half the least subnormal number underflows.
-/

namespace RowMetrics

theorem Int.saturate64_nonneg {n : Int} (h : 0 ≤ n) : 0 ≤ (Int.saturate64 n).toInt := by
  have hpow : Int.pow 2 63 = 2 ^ 63 := rfl
  unfold Int.saturate64
  rw [hpow]
  split_ifs with hlo hhi
  · omega
  · rw [Int64.toInt_ofInt_of_le (by omega) (by omega)]
    omega
  · rw [Int64.toInt_ofInt_of_le (by omega) (by omega)]
    exact h

namespace Binary64

theorem roundHalfUp_nonneg {x : Binary64} (h : x.isNegative = false) :
    0 ≤ x.roundHalfUp.toInt := by
  unfold roundHalfUp
  cases hd : x.decode with
  | nan => decide
  | infinite s =>
      obtain ⟨-, -, hs⟩ := (decode_eq_infinite_iff x s).mp hd
      rw [hs, h]
      exact Int.saturate64_nonneg (by decide)
  | finite s m e =>
      obtain ⟨hs, -⟩ := decode_finite hd
      rw [hs, h]
      dsimp only
      simp only [Bool.false_eq_true, if_false]
      exact Int.saturate64_nonneg (Int.natCast_nonneg _)

theorem le_zero_eq_false {x : Binary64} {m : Nat} {e : Int} (h : x.decode = .finite false m e)
    (hm : m ≠ 0) : x.le (zero false) = false := by
  obtain ⟨hs, -, -, hscaled⟩ := decode_finite h
  have hpos : 0 < x.magnitude := by
    rw [← scaledMagnitude_pos_iff, ← hscaled]
    exact Nat.mul_pos (Nat.pos_of_ne_zero hm) (Nat.two_pow_pos _)
  have hkey : x.orderKey = x.magnitude := by
    rw [orderKey_eq, ← hs]
    rfl
  have hzero : (zero false).orderKey = 0 := by decide
  unfold le
  rw [hkey, hzero]
  simp only [Bool.and_eq_false_iff, decide_eq_false_iff_not, not_le]
  omega

theorem decode_round_one {n : Nat} (hn : n ≠ 0) (scale : Int) (hlo : -1022 ≤ n.log2 + scale)
    (hhi : n.log2 + scale ≤ 1022) :
    ∃ q u, (round false n 1 scale).decode = .finite false q u ∧ 2 ^ 52 ≤ q ∧ q < 2 ^ 53 ∧
      n.log2 + scale - 52 ≤ u ∧ u ≤ n.log2 + scale - 51 := by
  have hfl := floorLog2_one hn
  rw [← hfl] at hlo hhi ⊢
  exact decode_round_of_normal false n 1 scale hn one_ne_zero hlo hhi

theorem decode_ofNat_zero : (ofNat 0).decode = .finite false 0 (-1074) := by decide

theorem decode_ofNat {n : Nat} (hn : n < 2 ^ 64) (h0 : n ≠ 0) :
    ∃ q u, (ofNat n).decode = .finite false q u ∧ 2 ^ 52 ≤ q ∧ q < 2 ^ 53 ∧ -52 ≤ u ∧ u ≤ 12 := by
  have hlog : n.log2 < 64 := (Nat.log2_lt h0).mpr hn
  obtain ⟨q, u, hd, hq₁, hq₂, hu₁, hu₂⟩ := decode_round_one h0 0 (by omega) (by omega)
  exact ⟨q, u, hd, hq₁, hq₂, by omega, by omega⟩

theorem log2_mantissa_mul {q : Nat} (hq₁ : 2 ^ 52 ≤ q) (hq₂ : q < 2 ^ 53) (p : Nat) :
    (q * 2 ^ p).log2 = 52 + p := by
  have hne : q * 2 ^ p ≠ 0 := Nat.mul_ne_zero (by omega) (by positivity)
  apply Nat.le_antisymm
  · apply Nat.lt_succ_iff.mp
    rw [Nat.log2_lt hne, show (52 + p).succ = 53 + p by omega, Nat.pow_add]
    exact Nat.mul_lt_mul_of_pos_right hq₂ (Nat.two_pow_pos p)
  · rw [Nat.le_log2 hne, Nat.pow_add]
    exact Nat.mul_le_mul_right _ hq₁

theorem decode_sub_ofNat {t0 t1 : Nat} (h0 : t0 < 2 ^ 64) (h1 : t1 < 2 ^ 64)
    (hlt : (ofNat t0).lt (ofNat t1) = true) :
    ∃ q u, (sub (ofNat t1) (ofNat t0)).decode = .finite false q u ∧ 2 ^ 52 ≤ q ∧
      q < 2 ^ 53 ∧ -104 ≤ u ∧ u ≤ 13 := by
  have hkey := ((lt_eq_true_iff _ _).mp hlt).2.2
  have ht1 : t1 ≠ 0 := by
    rintro rfl
    have hsign : (ofNat t0).isNegative = false := (round_hasSign false t0 1 0).1
    have hzero : (ofNat 0).orderKey = 0 := by decide
    rw [orderKey_eq, hsign, hzero] at hkey
    exact absurd hkey (by simp)
  obtain ⟨q1, u1, hd1, hq1, hq1', hu1, hu1'⟩ := decode_ofNat h1 ht1
  by_cases ht0 : t0 = 0
  · -- from `+0` the difference is the later count itself, at the subnormal exponent
    subst ht0
    have hmin : min u1 (-1074) = -1074 := min_eq_right (by omega)
    have hlog := log2_mantissa_mul hq1 hq1' (u1 - -1074).toNat
    have hpos : 0 < q1 * 2 ^ (u1 - -1074).toNat := Nat.mul_pos (by omega) (Nat.two_pow_pos _)
    rw [sub_of_finite hd1 decode_ofNat_zero (by rw [hmin]; simpa using hpos), hmin]
    simp only [Int.sub_self, Int.toNat_zero, Nat.pow_zero, Nat.zero_mul, Nat.sub_zero]
    obtain ⟨q, u, hd, hq, hq', hu, hu'⟩ := decode_round_one (Nat.pos_iff_ne_zero.mp hpos) (-1074)
      (by omega) (by omega)
    exact ⟨q, u, hd, hq, hq', by omega, by omega⟩
  · obtain ⟨q0, u0, hd0, hq0, hq0', hu0, hu0'⟩ := decode_ofNat h0 ht0
    have hgt := aligned_diff_pos hkey hd1 hd0
    simp only [Bool.false_eq_true, if_false, one_mul, sub_pos, Nat.cast_lt] at hgt
    rw [sub_of_finite hd1 hd0 hgt]
    have hne : q1 * 2 ^ (u1 - min u1 u0).toNat - q0 * 2 ^ (u0 - min u1 u0).toNat ≠ 0 := by omega
    have hbits : (q1 * 2 ^ (u1 - min u1 u0).toNat - q0 * 2 ^ (u0 - min u1 u0).toNat).log2 <
        53 + (u1 - min u1 u0).toNat := by
      rw [Nat.log2_lt hne, Nat.pow_add]
      calc q1 * 2 ^ (u1 - min u1 u0).toNat - q0 * 2 ^ (u0 - min u1 u0).toNat
          ≤ q1 * 2 ^ (u1 - min u1 u0).toNat := Nat.sub_le _ _
        _ < 2 ^ 53 * 2 ^ (u1 - min u1 u0).toNat :=
          Nat.mul_lt_mul_of_pos_right hq1' (Nat.two_pow_pos _)
    obtain ⟨q, u, hd, hq, hq', hu, hu'⟩ := decode_round_one hne (min u1 u0)
      (by omega) (by omega)
    exact ⟨q, u, hd, hq, hq', by omega, by omega⟩

theorem decode_ofNat_thousand : (ofNat 1000).decode = .finite false 8796093022208000 (-43) := by
  decide

end Binary64

namespace Timestamp

open Binary64

/-- When the later count, as a binary64 number, is above the earlier, the distance in seconds
is a positive normal number. -/
theorem decode_secondsSince {t0 t1 : Timestamp}
    (h : (ofNat t0.millis.toNat).lt (ofNat t1.millis.toNat) = true) :
    ∃ m e, (t1.secondsSince t0).decode = .finite false m e ∧ 2 ^ 52 ≤ m := by
  obtain ⟨q, u, hd, hq, hq', hu, hu'⟩ :=
    decode_sub_ofNat (UInt64.toNat_lt _) (UInt64.toNat_lt _) h
  have hlogq : q.log2 = 52 := by simpa using log2_mantissa_mul hq hq' 0
  have hlogm : Nat.log2 8796093022208000 = 52 := by decide
  have hfl := floorLog2_bounds q 8796093022208000
  rw [hlogq, hlogm] at hfl
  unfold secondsSince div
  rw [hd, decode_ofNat_thousand]
  simp only [bne_self_eq_false, OfNat.ofNat_ne_zero, if_false]
  obtain ⟨m, e, hde, hm, -⟩ := decode_round_of_normal false q 8796093022208000 (u - -43)
    (by omega) (by decide) (by omega) (by omega)
  exact ⟨m, e, hde, hm⟩

theorem secondsSince_le_zero_eq_false {t0 t1 : Timestamp}
    (h : (ofNat t0.millis.toNat).lt (ofNat t1.millis.toNat) = true) :
    (t1.secondsSince t0).le (Binary64.zero false) = false := by
  obtain ⟨m, e, hd, hm⟩ := decode_secondsSince h
  exact le_zero_eq_false hd (by omega)

end Timestamp

namespace Observation

open Binary64

variable {t0 t1 : Timestamp}

theorem rateSince_integers (a b : Int64)
    (he : (t1.secondsSince t0).le (Binary64.zero false) = false) :
    rateSince ⟨.integer a, t0⟩ ⟨.integer b, t1⟩ = some (.integer
      (if a.toInt < b.toInt then (div (ofInt (b.toInt - a.toInt)) (t1.secondsSince t0)).roundHalfUp
      else 0)) := by
  simp only [rateSince, Value.kind, reduceCtorEq, if_false, he, Bool.false_eq_true]
  split_ifs <;> rfl

theorem rateSince_float_integer (x : Binary64) (b : Int64)
    (he : (t1.secondsSince t0).le (Binary64.zero false) = false) :
    rateSince ⟨.float x, t0⟩ ⟨.integer b, t1⟩ = some (.integer
      (if x.lt (ofInt b.toInt) then
        (div (sub (ofInt b.toInt) x) (t1.secondsSince t0)).roundHalfUp
      else 0)) := by
  simp only [rateSince, Value.kind, reduceCtorEq, if_false, he, Bool.false_eq_true,
    Value.toBinary64?]
  split_ifs <;> rfl

theorem rateSince_to_float {v0 : Value} {o : Binary64} (ho : v0.toBinary64? = some o)
    (y : Binary64) (he : (t1.secondsSince t0).le (Binary64.zero false) = false) :
    rateSince ⟨v0, t0⟩ ⟨.float y, t1⟩ = some (.float
      (if o.lt y then div (sub y o) (t1.secondsSince t0) else Binary64.zero false)) := by
  cases v0 <;> simp only [Value.toBinary64?, Option.some.injEq, reduceCtorEq] at ho <;> subst ho <;>
    simp only [rateSince, Value.kind, reduceCtorEq, if_false, he, Bool.false_eq_true,
      Value.toBinary64?] <;>
    split_ifs <;> rfl

theorem div_secondsSince_hasSign
    (ht : (ofNat t0.millis.toNat).lt (ofNat t1.millis.toNat) = true) {x : Binary64}
    (hx : HasSign false x) : HasSign false (div x (t1.secondsSince t0)) := by
  obtain ⟨m, e, helapsed, hm⟩ := Timestamp.decode_secondsSince ht
  exact div_hasSign hx helapsed (by omega)

/-- Once time has passed, an integer rate from a number is never negative. -/
theorem integer_rate_nonneg (ht : (ofNat t0.millis.toNat).lt (ofNat t1.millis.toNat) = true)
    {v0 : Value} (h0 : v0.kind ≠ .text) {b n : Int64}
    (hr : rateSince ⟨v0, t0⟩ ⟨.integer b, t1⟩ = some (.integer n)) : 0 ≤ n.toInt := by
  have he := Timestamp.secondsSince_le_zero_eq_false ht
  cases v0 with
  | integer a =>
      rw [rateSince_integers a b he, Option.some.injEq, Value.integer.injEq] at hr
      subst hr
      split_ifs with hlt
      · exact roundHalfUp_nonneg (div_secondsSince_hasSign ht (ofInt_hasSign_of_pos (by omega))).1
      · decide
  | float x =>
      rw [rateSince_float_integer x b he, Option.some.injEq, Value.integer.injEq] at hr
      subst hr
      split_ifs with hlt
      · exact roundHalfUp_nonneg (div_secondsSince_hasSign ht (sub_hasSign_of_lt hlt)).1
      · decide
  | text s => exact absurd rfl h0

/-- Once time has passed, a float rate from a number has its sign bit clear and is no NaN. -/
theorem float_rate_hasSign (ht : (ofNat t0.millis.toNat).lt (ofNat t1.millis.toNat) = true)
    {v0 : Value} {o : Binary64} (ho : v0.toBinary64? = some o) {y x : Binary64}
    (hr : rateSince ⟨v0, t0⟩ ⟨.float y, t1⟩ = some (.float x)) : HasSign false x := by
  rw [rateSince_to_float ho y (Timestamp.secondsSince_le_zero_eq_false ht), Option.some.injEq,
    Value.float.injEq] at hr
  subst hr
  split_ifs with hlt
  · exact div_secondsSince_hasSign ht (sub_hasSign_of_lt hlt)
  · exact zero_hasSign false

end Observation

theorem Value.exists_toBinary64? {v : Value} (h : v.kind ≠ .text) : ∃ o, v.toBinary64? = some o := by
  cases v with
  | integer a => exact ⟨_, rfl⟩
  | float x => exact ⟨x, rfl⟩
  | text s => exact absurd rfl h

open Binary64 in
/-- What the rate between two numbers is once time has passed. -/
structure RateBetweenNumbers (v0 : Value) (t0 : Timestamp) (v1 : Value) (t1 : Timestamp) :
    Prop where
  /-- There is a rate, of the new value's kind. -/
  exists_rate : ∃ r, Observation.rateSince ⟨v0, t0⟩ ⟨v1, t1⟩ = some r ∧ r.kind = v1.kind
  /-- Between two integers the difference is exact: the rate is zero unless the value grew, and
  otherwise the difference over the elapsed seconds, rounded half up. -/
  integers : ∀ a b : Int64, v0 = .integer a → v1 = .integer b →
    Observation.rateSince ⟨v0, t0⟩ ⟨v1, t1⟩ = some (.integer
      (if a.toInt < b.toInt then (div (ofInt (b.toInt - a.toInt)) (t1.secondsSince t0)).roundHalfUp
      else 0))
  /-- From a float to an integer the rate is zero unless the integer, as a binary64 number, is
  above the float. -/
  float_to_integer : ∀ x b, v0 = .float x → v1 = .integer b → x.lt (ofInt b.toInt) = false →
    Observation.rateSince ⟨v0, t0⟩ ⟨v1, t1⟩ = some (.integer 0)
  /-- An integer rate is never negative. -/
  integer_nonneg : ∀ n, Observation.rateSince ⟨v0, t0⟩ ⟨v1, t1⟩ = some (.integer n) → 0 ≤ n.toInt
  /-- To a float the rate is `+0` unless the float is above the old value; a NaN on either side
  is above nothing. -/
  float_zero : ∀ o y, v0.toBinary64? = some o → v1 = .float y → o.lt y = false →
    Observation.rateSince ⟨v0, t0⟩ ⟨v1, t1⟩ = some (.float (zero false))
  /-- A float rate has its sign bit clear and is no NaN: a positive number, `+∞` or `+0`. -/
  float_nonneg : ∀ x, Observation.rateSince ⟨v0, t0⟩ ⟨v1, t1⟩ = some (.float x) → HasSign false x

open Binary64 in
theorem rate_between_numbers_is_never_negative {v0 v1 : Value} (h0 : v0.kind ≠ .text)
    (h1 : v1.kind ≠ .text) {t0 t1 : Timestamp}
    (ht : (ofNat t0.millis.toNat).lt (ofNat t1.millis.toNat) = true) :
    RateBetweenNumbers v0 t0 v1 t1 := by
  have he := Timestamp.secondsSince_le_zero_eq_false ht
  refine ⟨Observation.rateSince_of_elapsed h1 h0 he, ?_, ?_, ?_, ?_, ?_⟩
  · rintro a b rfl rfl
    exact Observation.rateSince_integers a b he
  · rintro x b rfl rfl hlt
    rw [Observation.rateSince_float_integer x b he, hlt]
    rfl
  · -- an integer rate comes from an integer
    intro n hr
    cases v1 with
    | integer b => exact Observation.integer_rate_nonneg ht h0 hr
    | float y => cases Observation.rateSince_kind hr
    | text s => exact absurd rfl h1
  · rintro o y ho rfl hlt
    rw [Observation.rateSince_to_float ho y he, hlt]
    rfl
  · -- a float rate comes from a float
    intro x hr
    cases v1 with
    | float y =>
        obtain ⟨o, ho⟩ := Value.exists_toBinary64? h0
        exact Observation.float_rate_hasSign ht ho hr
    | integer b => cases Observation.rateSince_kind hr
    | text s => exact absurd rfl h1

open Binary64 in
/-- The least positive number ten seconds after `+0`: the difference is positive, and the rate
still keeps its sign bit clear. -/
theorem least_subnormal_rate_is_not_negative :
    (Value.float (zero false)).kind ≠ .text ∧ (Value.float ⟨1⟩).kind ≠ .text ∧
      (ofNat (⟨0⟩ : Timestamp).millis.toNat).lt (ofNat (⟨10000⟩ : Timestamp).millis.toNat) = true ∧
      RateBetweenNumbers (.float (zero false)) ⟨0⟩ (.float ⟨1⟩) ⟨10000⟩ :=
  ⟨by decide, by decide, by decide +kernel,
    rate_between_numbers_is_never_negative (by decide) (by decide) (by decide +kernel)⟩

open Binary64 in
/-- A float rate above the old value need not be positive: the least positive number ten seconds
after `+0` gives a quotient below half the least subnormal one, which rounds to `+0`. -/
theorem least_subnormal_rate_underflows :
    (zero false).lt ⟨1⟩ = true ∧
      Observation.rateSince ⟨.float (zero false), ⟨0⟩⟩ ⟨.float ⟨1⟩, ⟨10000⟩⟩ =
        some (.float (zero false)) := by
  decide +kernel

end RowMetrics
