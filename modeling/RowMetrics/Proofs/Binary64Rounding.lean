import Mathlib.Algebra.Order.Field.Power
import Mathlib.Algebra.Order.Field.Rat
import Mathlib.Tactic.GCongr
import Mathlib.Tactic.Positivity
import RowMetrics.Proofs.Binary64Fields

/-!
What rounding keeps. `floorLog2` finds the binade of a quotient, so the mantissa that `round`
cuts never reaches `2 ^ 53` before its last carry, and a quotient of a normal size keeps all
fifty-three bits. Hence `round` gives the sign it is asked for and never a NaN; a difference
`x - y` with `y < x` and a quotient of such a number by a positive finite one have their sign
bit clear and are no NaN.
-/

namespace RowMetrics

namespace Binary64

theorem two_zpow_mul (a b : Int) : (2 : ℚ) ^ (a - b) * 2 ^ (b - a).toNat = 2 ^ (a - b).toNat := by
  obtain ⟨n, hn | hn⟩ := Int.eq_nat_or_neg (a - b)
  · have hba : b - a = -n := by omega
    rw [hn, hba]
    simp
  · have hba : b - a = n := by omega
    rw [hn, hba]
    simp

theorem scaledLe_eq_true_iff (den num : Nat) (k : Int) :
    scaledLe den num k = true ↔ (den : ℚ) * 2 ^ k ≤ num := by
  have hbridge := two_zpow_mul k 0
  simp only [sub_zero, zero_sub] at hbridge
  have hpos : (0 : ℚ) < 2 ^ (-k).toNat := by positivity
  unfold scaledLe
  simp only [Nat.pow_eq]
  rw [decide_eq_true_iff, ← Nat.cast_le (α := ℚ)]
  push_cast
  rw [← hbridge, ← mul_assoc]
  exact mul_le_mul_iff_of_pos_right hpos

theorem floorLog2_eq (num den : Nat) :
    floorLog2 num den =
      if scaledLe den num ((num.log2 : Int) - den.log2) then (num.log2 : Int) - den.log2
      else (num.log2 : Int) - den.log2 - 1 := rfl

/-- `floorLog2 num den` is the exponent of the binade of `num / den`. -/
theorem floorLog2_spec {num den : Nat} (hnum : num ≠ 0) (hden : den ≠ 0) :
    (den : ℚ) * 2 ^ floorLog2 num den ≤ num ∧ (num : ℚ) < den * 2 ^ (floorLog2 num den + 1) := by
  have h1 : ((2 ^ num.log2 : Nat) : ℚ) ≤ num := Nat.cast_le.mpr (Nat.log2_self_le hnum)
  have h2 : (num : ℚ) < ((2 ^ (num.log2 + 1) : Nat) : ℚ) := Nat.cast_lt.mpr Nat.lt_log2_self
  have h3 : ((2 ^ den.log2 : Nat) : ℚ) ≤ den := Nat.cast_le.mpr (Nat.log2_self_le hden)
  have h4 : (den : ℚ) < ((2 ^ (den.log2 + 1) : Nat) : ℚ) := Nat.cast_lt.mpr Nat.lt_log2_self
  push_cast at h1 h2 h3 h4
  rw [← zpow_natCast] at h1 h2 h3 h4
  push_cast at h1 h2 h3 h4
  rw [floorLog2_eq]
  generalize (num.log2 : Int) = a at *
  generalize (den.log2 : Int) = b at *
  split_ifs with hle
  · -- the first guess `a - b` is the binade: the quotient is below `2 ^ (a + 1) / 2 ^ b`
    refine ⟨(scaledLe_eq_true_iff den num _).mp hle, ?_⟩
    calc (num : ℚ) < 2 ^ (a + 1) := h2
      _ = 2 ^ b * 2 ^ (a - b + 1) := by rw [← zpow_add₀ two_ne_zero]; ring_nf
      _ ≤ den * 2 ^ (a - b + 1) := by gcongr
  · -- one binade lower: the quotient is at least `2 ^ a / 2 ^ (b + 1)`
    have hlt : (num : ℚ) < den * 2 ^ (a - b) := by
      rw [scaledLe_eq_true_iff] at hle
      exact lt_of_not_ge hle
    refine ⟨?_, by rwa [sub_add_cancel]⟩
    calc (den : ℚ) * 2 ^ (a - b - 1) ≤ 2 ^ (b + 1) * 2 ^ (a - b - 1) := by gcongr
      _ = 2 ^ a := by rw [← zpow_add₀ two_ne_zero]; ring_nf
      _ ≤ num := h1

theorem floorLog2_bounds (num den : Nat) :
    (num.log2 : Int) - den.log2 - 1 ≤ floorLog2 num den ∧
      floorLog2 num den ≤ (num.log2 : Int) - den.log2 := by
  rw [floorLog2_eq]
  split_ifs <;> omega

theorem floorLog2_one {n : Nat} (hn : n ≠ 0) : floorLog2 n 1 = n.log2 := by
  have hlog : Nat.log2 1 = 0 := by decide
  have hle : scaledLe 1 n (n.log2 : Int) = true := by
    unfold scaledLe
    simp only [Int.toNat_natCast, Nat.pow_eq, Nat.one_mul, decide_eq_true_eq]
    have hneg : (-(n.log2 : Int)).toNat = 0 := by omega
    rw [hneg, Nat.pow_zero, Nat.mul_one]
    exact Nat.log2_self_le hn
  rw [floorLog2_eq, hlog]
  simp only [Nat.cast_zero, sub_zero, hle, if_true]

/-- The quotient `n / d` rounded to the nearest, ties to the even one, as `round` rounds it. -/
def roundedDiv (n d : Nat) : Nat := if roundsUp (n / d) (n % d) d then n / d + 1 else n / d

/-- `round` of a nonzero quotient: the exponent `u` is that of the binade less fifty-two, but
no lower than the subnormal one, and a mantissa carried up to `2 ^ 53` moves to the next
binade. -/
theorem round_of_ne_zero (negative : Bool) {num den : Nat} (hnum : num ≠ 0) (hden : den ≠ 0)
    (scale : Int) :
    round negative num den scale =
      let u := max (floorLog2 num den + scale - 52) (-1074)
      let q := roundedDiv (num * 2 ^ (scale - u).toNat) (den * 2 ^ (u - scale).toNat)
      if q = 2 ^ 53 then pack negative (2 ^ 52) (u + 1) else pack negative q u := by
  unfold round
  rw [if_neg (by omega)]
  rfl

theorem roundedDiv_le {n d : Nat} (h : n < 2 ^ 53 * d) : roundedDiv n d ≤ 2 ^ 53 := by
  have hq : n / d < 2 ^ 53 := Nat.div_lt_of_lt_mul (by rwa [Nat.mul_comm])
  unfold roundedDiv
  split_ifs <;> omega

theorem le_roundedDiv {n d : Nat} (hd : 0 < d) (h : 2 ^ 52 * d ≤ n) : 2 ^ 52 ≤ roundedDiv n d := by
  have hq : 2 ^ 52 ≤ n / d := (Nat.le_div_iff_mul_le hd).mpr (by rw [Nat.mul_comm] at h ⊢; exact h)
  unfold roundedDiv
  split_ifs <;> omega

theorem scaled_lt {num den : Nat} (hnum : num ≠ 0) (hden : den ≠ 0) {scale u : Int}
    (hu : floorLog2 num den + scale - 52 ≤ u) :
    num * 2 ^ (scale - u).toNat < 2 ^ 53 * (den * 2 ^ (u - scale).toNat) := by
  have hspec := (floorLog2_spec hnum hden).2
  have hexp : (2 : ℚ) ^ (floorLog2 num den + 1 + (scale - u)) ≤ 2 ^ (53 : Int) :=
    zpow_le_zpow_right₀ (by norm_num) (by omega)
  rw [← Nat.cast_lt (α := ℚ)]
  push_cast
  rw [← two_zpow_mul scale u]
  calc (num : ℚ) * (2 ^ (scale - u) * 2 ^ (u - scale).toNat)
      = num * 2 ^ (scale - u) * 2 ^ (u - scale).toNat := by ring
    _ < den * 2 ^ (floorLog2 num den + 1) * 2 ^ (scale - u) * 2 ^ (u - scale).toNat := by
        gcongr
    _ = den * 2 ^ (floorLog2 num den + 1 + (scale - u)) * 2 ^ (u - scale).toNat := by
        rw [zpow_add₀ two_ne_zero (floorLog2 num den + 1) (scale - u)]
        ring
    _ ≤ den * 2 ^ (53 : Int) * 2 ^ (u - scale).toNat := by gcongr
    _ = 2 ^ 53 * (den * 2 ^ (u - scale).toNat) := by
        rw [show (53 : Int) = ((53 : Nat) : Int) from rfl, zpow_natCast]
        ring

theorem le_scaled {num den : Nat} (hnum : num ≠ 0) (hden : den ≠ 0) {scale u : Int}
    (hu : u = floorLog2 num den + scale - 52) :
    2 ^ 52 * (den * 2 ^ (u - scale).toNat) ≤ num * 2 ^ (scale - u).toNat := by
  have hspec := (floorLog2_spec hnum hden).1
  have hexp : floorLog2 num den + (scale - u) = ((52 : Nat) : Int) := by omega
  rw [← Nat.cast_le (α := ℚ)]
  push_cast
  rw [← two_zpow_mul scale u]
  calc (2 : ℚ) ^ 52 * (den * 2 ^ (u - scale).toNat)
      = den * 2 ^ (floorLog2 num den + (scale - u)) * 2 ^ (u - scale).toNat := by
        rw [hexp, zpow_natCast]
        ring
    _ = den * 2 ^ floorLog2 num den * 2 ^ (scale - u) * 2 ^ (u - scale).toNat := by
        rw [zpow_add₀ two_ne_zero (floorLog2 num den) (scale - u)]
        ring
    _ ≤ num * 2 ^ (scale - u) * 2 ^ (u - scale).toNat := by gcongr
    _ = num * (2 ^ (scale - u) * 2 ^ (u - scale).toNat) := by ring

/-- `x` is no NaN, and its sign bit is `negative`. -/
def HasSign (negative : Bool) (x : Binary64) : Prop := x.isNegative = negative ∧ x.isNaN = false

theorem ofFields_hasSign (negative : Bool) {biased fraction : Nat} (hb : biased < 2047)
    (hf : fraction < 2 ^ 52) : HasSign negative (ofFields negative biased fraction) := by
  obtain ⟨hs, hbiased, -⟩ := ofFields_fields negative (by omega : biased < 2048) hf
  exact ⟨hs, (isNaN_eq_false_iff _).mpr (.inl (by omega))⟩

theorem infinity_hasSign (negative : Bool) : HasSign negative (infinity negative) := by
  obtain ⟨hs, -, hfrac⟩ := ofFields_fields negative (by decide : 2047 < 2048) (Nat.two_pow_pos 52)
  exact ⟨hs, (isNaN_eq_false_iff _).mpr (.inr hfrac)⟩

theorem zero_hasSign (negative : Bool) : HasSign negative (zero negative) :=
  ofFields_hasSign negative (by decide) (Nat.two_pow_pos 52)

theorem pack_hasSign (negative : Bool) {q : Nat} (hq : q < 2 ^ 53) (u : Int) :
    HasSign negative (pack negative q u) := by
  unfold pack
  simp only [Nat.pow_eq]
  split_ifs with hinf hsub
  · exact infinity_hasSign negative
  · exact ofFields_hasSign negative (by decide) hsub
  · exact ofFields_hasSign negative (by omega) (by omega)

theorem decode_pack (negative : Bool) {q : Nat} (hq₁ : 2 ^ 52 ≤ q) (hq₂ : q < 2 ^ 53) {u : Int}
    (hu₁ : -1074 ≤ u) (hu₂ : u ≤ 971) : (pack negative q u).decode = .finite negative q u := by
  have hpack : pack negative q u = ofFields negative (u + 1075).toNat (q - 2 ^ 52) := by
    unfold pack
    simp only [Nat.pow_eq]
    rw [if_neg (by omega), if_neg (by omega)]
  obtain ⟨hs, hb, hf⟩ := ofFields_fields negative (by omega : (u + 1075).toNat < 2048)
    (by omega : q - 2 ^ 52 < 2 ^ 52)
  rw [hpack]
  unfold decode
  rw [hs, hb, hf, if_neg (by omega), if_neg (by omega)]
  congr 1
  · rw [Nat.pow_eq]
    omega
  · omega

/-- Rounding gives the sign it is asked for, and never a NaN. -/
theorem round_hasSign (negative : Bool) (num den : Nat) (scale : Int) :
    HasSign negative (round negative num den scale) := by
  by_cases hzero : num = 0 ∨ den = 0
  · unfold round
    rw [if_pos hzero]
    exact zero_hasSign negative
  · have hnum : num ≠ 0 := fun h => hzero (.inl h)
    have hden : den ≠ 0 := fun h => hzero (.inr h)
    rw [round_of_ne_zero negative hnum hden]
    dsimp only
    have hq := roundedDiv_le (scaled_lt hnum hden
      (le_max_left (floorLog2 num den + scale - 52) (-1074)))
    split_ifs with hcarry
    · exact pack_hasSign negative (by decide) _
    · exact pack_hasSign negative (by omega) _

/-- A quotient whose binade lies well inside the normal range rounds to a normal number of the
sign asked for, its exponent that of the binade less fifty-two, or one more after a carry. -/
theorem decode_round_of_normal (negative : Bool) (num den : Nat) (scale : Int) (hnum : num ≠ 0)
    (hden : den ≠ 0) (hlo : -1022 ≤ floorLog2 num den + scale)
    (hhi : floorLog2 num den + scale ≤ 1022) :
    ∃ q u, (round negative num den scale).decode = .finite negative q u ∧ 2 ^ 52 ≤ q ∧
      q < 2 ^ 53 ∧ floorLog2 num den + scale - 52 ≤ u ∧ u ≤ floorLog2 num den + scale - 51 := by
  rw [round_of_ne_zero negative hnum hden]
  dsimp only
  have hu : max (floorLog2 num den + scale - 52) (-1074) = floorLog2 num den + scale - 52 :=
    max_eq_left (by omega)
  simp only [hu]
  have hd : 0 < den * 2 ^ (floorLog2 num den + scale - 52 - scale).toNat :=
    Nat.mul_pos (Nat.pos_of_ne_zero hden) (Nat.two_pow_pos _)
  have hq₁ := le_roundedDiv hd (le_scaled hnum hden rfl)
  have hq₂ := roundedDiv_le (scaled_lt hnum hden (le_refl (floorLog2 num den + scale - 52)))
  split_ifs with hcarry
  · -- the mantissa carried into the next binade
    exact ⟨2 ^ 52, _, decode_pack negative (le_refl _) (by decide) (by omega) (by omega),
      le_refl _, by decide, by omega, by omega⟩
  · exact ⟨_, _, decode_pack negative hq₁ (by omega) (by omega) (by omega), hq₁, by omega,
      le_refl _, by omega⟩

theorem ofInt_hasSign_of_pos {n : Int} (h : 0 < n) : HasSign false (ofInt n) := by
  unfold ofInt
  rw [decide_eq_false (by omega)]
  exact round_hasSign false _ _ _

theorem aligned_eq {x : Binary64} {a : Bool} {m : Nat} {e : Int} (h : x.decode = .finite a m e)
    {e' : Int} (he : e' ≤ e) (he' : -1074 ≤ e') :
    (if a then -1 else 1) * ((m * 2 ^ (e - e').toNat : Nat) : Int) * 2 ^ (e' + 1074).toNat =
      x.signedScaled := by
  obtain ⟨ha, -, -, hm⟩ := decode_finite h
  have hexp : (e + 1074).toNat = (e - e').toNat + (e' + 1074).toNat := by omega
  unfold signedScaled
  rw [← ha, ← hm, hexp, Nat.pow_add]
  cases a <;> simp only [Bool.false_eq_true, ↓reduceIte] <;> push_cast <;> ring

theorem orderKey_of_infinite {x : Binary64} {s : Bool} (h : x.decode = .infinite s) :
    x.orderKey = if s then -(2047 * 2 ^ 52) else 2047 * 2 ^ 52 := by
  obtain ⟨hb, hf, hs⟩ := (decode_eq_infinite_iff x s).mp h
  rw [orderKey_eq, magnitude, hb, hf, ← hs]
  split_ifs <;> rfl

theorem orderKey_bounds {x : Binary64} (h : x.isNaN = false) :
    -(2047 * 2 ^ 52) ≤ x.orderKey ∧ x.orderKey ≤ 2047 * 2 ^ 52 := by
  have hm := (magnitude_le_of_not_isNaN h).1
  rw [orderKey_eq]
  split_ifs <;> omega

theorem aligned_diff_pos {x y : Binary64} (hkey : y.orderKey < x.orderKey) {a b : Bool}
    {ma mb : Nat} {ea eb : Int} (hdx : x.decode = .finite a ma ea)
    (hdy : y.decode = .finite b mb eb) :
    0 < (if a then -1 else 1) * ((ma * 2 ^ (ea - min ea eb).toNat : Nat) : Int) -
      (if b then -1 else 1) * ((mb * 2 ^ (eb - min ea eb).toNat : Nat) : Int) := by
  obtain ⟨-, -, hea, -⟩ := decode_finite hdx
  obtain ⟨-, -, heb, -⟩ := decode_finite hdy
  have hax := aligned_eq hdx (min_le_left ea eb) (le_min hea heb)
  have hay := aligned_eq hdy (min_le_right ea eb) (le_min hea heb)
  have hlt := signedScaled_lt_of_orderKey_lt hkey
  have hscale : (0 : Int) < 2 ^ (min ea eb + 1074).toNat := by positivity
  have hprod : 0 * 2 ^ (min ea eb + 1074).toNat < ((if a then -1 else 1) *
      ((ma * 2 ^ (ea - min ea eb).toNat : Nat) : Int) - (if b then -1 else 1) *
      ((mb * 2 ^ (eb - min ea eb).toNat : Nat) : Int)) * 2 ^ (min ea eb + 1074).toNat := by
    rw [sub_mul, hax, hay, zero_mul]
    omega
  exact lt_of_mul_lt_mul_right hprod hscale.le

/-- A difference `x - y` with `y < x` has its sign bit clear and is no NaN. -/
theorem sub_hasSign_of_lt {x y : Binary64} (h : y.lt x = true) : HasSign false (sub x y) := by
  obtain ⟨hy, hx, hkey⟩ := (lt_eq_true_iff y x).mp h
  have hbx := orderKey_bounds hx
  have hby := orderKey_bounds hy
  unfold sub
  cases hdx : x.decode with
  | nan => exact absurd hdx (decode_ne_nan hx)
  | infinite a =>
      have hka := orderKey_of_infinite hdx
      cases hdy : y.decode with
      | nan => exact absurd hdy (decode_ne_nan hy)
      | infinite b =>
          have hkb := orderKey_of_infinite hdy
          cases a <;> cases b <;> simp only [Bool.false_eq_true, if_false, if_true] at hka hkb
          · omega
          · exact infinity_hasSign false
          · omega
          · omega
      | finite b mb eb =>
          cases a
          · exact infinity_hasSign false
          · simp only [if_true] at hka
            omega
  | finite a ma ea =>
      cases hdy : y.decode with
      | nan => exact absurd hdy (decode_ne_nan hy)
      | infinite b =>
          have hkb := orderKey_of_infinite hdy
          cases b
          · simp only [Bool.false_eq_true, if_false] at hkb
            omega
          · exact infinity_hasSign false
      | finite b mb eb =>
          have hpos := aligned_diff_pos hkey hdx hdy
          dsimp only
          simp only [Nat.pow_eq]
          rw [if_neg (ne_of_gt hpos), decide_eq_false (not_lt.mpr hpos.le)]
          exact round_hasSign false _ _ _

theorem sub_of_finite {x y : Binary64} {mx my : Nat} {ex ey : Int}
    (hdx : x.decode = .finite false mx ex) (hdy : y.decode = .finite false my ey)
    (h : my * 2 ^ (ey - min ex ey).toNat < mx * 2 ^ (ex - min ex ey).toNat) :
    sub x y =
      round false (mx * 2 ^ (ex - min ex ey).toNat - my * 2 ^ (ey - min ex ey).toNat) 1
        (min ex ey) := by
  unfold sub
  rw [hdx, hdy]
  dsimp only
  simp only [Nat.pow_eq, Bool.false_eq_true, if_false, one_mul]
  rw [if_neg (by omega), decide_eq_false (by omega)]
  congr 1
  omega

/-- A number with its sign bit clear that is no NaN, over a positive finite number that is no
zero, gives a quotient of the same kind. -/
theorem div_hasSign {x y : Binary64} (hx : HasSign false x) {m : Nat} {e : Int}
    (hy : y.decode = .finite false m e) (hm : m ≠ 0) : HasSign false (div x y) := by
  obtain ⟨hsx, hnx⟩ := hx
  unfold div
  rw [hy]
  cases hdx : x.decode with
  | nan => exact absurd hdx (decode_ne_nan hnx)
  | infinite a =>
      obtain ⟨-, -, ha⟩ := (decode_eq_infinite_iff x a).mp hdx
      rw [ha, hsx]
      exact infinity_hasSign false
  | finite a ma ea =>
      obtain ⟨ha, -⟩ := decode_finite hdx
      rw [ha, hsx]
      simp only [hm, if_false]
      exact round_hasSign false ma m (ea - e)

end Binary64

end RowMetrics
