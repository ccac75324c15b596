import RowMetrics.Binary64.Basic

/-!
From binary64 to 64-bit integers. `roundHalfUp` sends a value whose fractional part is at
least one half to the integer above and every other value to the integer below; the
fractional part of a negative value is negative, so a negative value always goes down. The
result saturates at the ends of the signed 64-bit range, infinities go to those ends and a NaN
goes to zero.
-/

namespace RowMetrics

/-- The nearest signed 64-bit integer to `n`: `n` itself when in range, else the end it passed. -/
def Int.saturate64 (n : Int) : Int64 :=
  if n < -Int.pow 2 63 then Int64.ofInt (-Int.pow 2 63)
  else if Int.pow 2 63 - 1 < n then Int64.ofInt (Int.pow 2 63 - 1)
  else Int64.ofInt n

namespace Binary64

/-- Rounds up from a fractional part of one half, down otherwise, with the fraction taken as
`x - trunc x`; then saturates into the signed 64-bit range. -/
def roundHalfUp (x : Binary64) : Int64 :=
  match x.decode with
  | .nan => 0
  | .infinite negative => Int.saturate64 (if negative then -Int.pow 2 63 else Int.pow 2 63)
  | .finite negative m e =>
    let num := m * Nat.pow 2 e.toNat
    let den := Nat.pow 2 (-e).toNat
    let whole := num / den
    let part := num % den
    if negative then Int.saturate64 (-((whole + (if part = 0 then 0 else 1) : Nat) : Int))
    else Int.saturate64 ((whole + (if den ≤ 2 * part then 1 else 0) : Nat) : Int)

example : roundHalfUp ⟨0x4004000000000000⟩ = 3 := by decide
example : roundHalfUp ⟨0xC004000000000000⟩ = -3 := by decide
example : roundHalfUp ⟨0x4003EB851EB851EC⟩ = 2 := by decide
example : roundHalfUp nan = 0 := by decide

end Binary64

end RowMetrics
