import RowMetrics.Binary64.Round

/-!
Timestamps: unsigned 64-bit counts of milliseconds. Adding, multiplying and subtracting
saturate at the ends of that range instead of wrapping, and the signed distance between two
timestamps is taken in seconds as a binary64 number: each count is rounded to binary64 first,
then their difference, then the quotient by one thousand.
-/

namespace RowMetrics

/-- A point in time, in milliseconds. -/
structure Timestamp where
  millis : UInt64
  deriving DecidableEq, Repr, Inhabited

namespace Timestamp

/-- The largest count of milliseconds. -/
def maxMillis : Nat := Nat.pow 2 64 - 1

/-- The count `n`, or the largest count when `n` exceeds it. -/
def ofNatSaturating (n : Nat) : Timestamp := ⟨UInt64.ofNat (min n maxMillis)⟩

def zero : Timestamp := ⟨0⟩

def ofSeconds (secs : UInt64) : Timestamp := ofNatSaturating (secs.toNat * 1000)

/-- The timestamp `ms` milliseconds later, saturating. -/
def addMillis (t : Timestamp) (ms : UInt64) : Timestamp :=
  ofNatSaturating (t.millis.toNat + ms.toNat)

/-- The milliseconds from `earlier` to `t`, or zero if `earlier` is later. -/
def millisSince (t earlier : Timestamp) : Nat := t.millis.toNat - earlier.millis.toNat

/-- The signed distance from `earlier` to `t` in seconds, rounded as binary64 arithmetic
rounds each step. -/
def secondsSince (t earlier : Timestamp) : Binary64 :=
  Binary64.div (Binary64.sub (Binary64.ofNat t.millis.toNat) (Binary64.ofNat earlier.millis.toNat))
    (Binary64.ofNat 1000)

example : (ofSeconds 18446744073709551615).millis = 18446744073709551615 := by decide
example : millisSince ⟨3⟩ ⟨5⟩ = 0 := by decide

end Timestamp

end RowMetrics
