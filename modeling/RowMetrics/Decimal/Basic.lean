import RowMetrics.Binary64.Round

/-!
Finite decimal numbers `± significand · 10 ^ exponent`, and their correct rounding to
binary64. The rounding is `Binary64.round` of the exact quotient; only magnitudes far outside
the binary64 range are settled before it, by their number of digits, so that no power of ten
grows with an exponent written in the text.
-/

namespace RowMetrics

/-- A finite decimal number `± significand · 10 ^ exponent`. The sign is kept for a zero
significand, so `-0` and `-0.0` are negative zeros. -/
structure Decimal where
  negative : Bool
  significand : Nat
  exponent : Int
  deriving DecidableEq, Repr, Inhabited

namespace Decimal

/-- The number of decimal digits of `n`; zero has none. -/
def digitCount (n : Nat) : Nat :=
  if n = 0 then 0 else (Nat.toDigits 10 n).length

def digitsOf (n : Nat) : List Char := Nat.toDigits 10 n

def valueOfDigits (ds : List Char) : Nat :=
  ds.foldl (fun acc d => acc * 10 + (d.toNat - '0'.toNat)) 0

/-- The binary64 number nearest to the decimal. Below `10 ^ 309` the magnitude is rounded
exactly; from there up it is infinite, and below `10 ^ -325`, less than half the smallest
subnormal, it is zero. -/
def toBinary64 (d : Decimal) : Binary64 :=
  if d.significand = 0 then Binary64.zero d.negative
  else
    let top := (digitCount d.significand : Int) + d.exponent
    if 310 ≤ top then Binary64.infinity d.negative
    else if top < -324 then Binary64.zero d.negative
    else
      Binary64.round d.negative (d.significand * Nat.pow 10 d.exponent.toNat)
        (Nat.pow 10 (-d.exponent).toNat) 0

example : digitCount 0 = 0 ∧ digitCount 9 = 1 ∧ digitCount 10 = 2 := by decide
example : toBinary64 ⟨false, 1, -1⟩ = ⟨0x3FB999999999999A⟩ := by decide

end Decimal

end RowMetrics
