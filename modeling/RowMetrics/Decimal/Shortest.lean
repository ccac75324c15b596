import RowMetrics.Decimal.Basic

/-!
The shortest decimal that reads back as a given binary64 number. The reals that round to a
finite nonzero `m · 2 ^ e` form an interval around it, closed when `m` is even; for one, two,
… seventeen significant digits the search looks at the two neighbours of the value on that
decimal grid, and the first grid with a neighbour inside the interval gives the answer. If both
neighbours are inside, the nearer one wins, and an exact tie is settled by a `Tie` rule.

Every decimal of `n` significant digits lies on the grid of spacing `10 ^ (k - n)`, where
`10 ^ (k - 1) ≤ v < 10 ^ k`; and if any point of that grid lies in the interval, so does one of
the value's two neighbours on it, since the interval is connected and holds the value. So the
first grid with a hit has the fewest digits. Seventeen digits always suffice.
-/

namespace RowMetrics

namespace Decimal

/-- How a search settles an exact tie between its two candidates. -/
inductive Tie where
  /-- Keep the candidate whose last digit is even. -/
  | even
  /-- Take the larger candidate. -/
  | up
  deriving DecidableEq, Repr

/-- Compares `c · 10 ^ j` with `n · 2 ^ s` exactly, by moving the negative powers across. -/
def compareScaled (c : Nat) (j : Int) (n : Nat) (s : Int) : Ordering :=
  compare (c * Nat.pow 10 j.toNat * Nat.pow 2 (-s).toNat)
    (n * Nat.pow 2 s.toNat * Nat.pow 10 (-j).toNat)

/-- `⌊log₁₀ (num / den)⌋` for positive `num` and `den`: the digit counts place the quotient in
`(10 ^ (k - 1), 10 ^ (k + 1))`, and one comparison picks the half. -/
def floorLog10 (num den : Nat) : Int :=
  let k : Int := (digitCount num : Int) - (digitCount den : Int)
  if den * Nat.pow 10 k.toNat ≤ num * Nat.pow 10 (-k).toNat then k else k - 1

/-- The reals that round to one positive binary64 number, in units of `2 ^ scale`: the value
is `mid`, the interval runs from `low` to `high`, and it holds its ends when `closed`. -/
structure Interval where
  low : Nat
  mid : Nat
  high : Nat
  scale : Int
  closed : Bool
  deriving DecidableEq, Repr

/-- The rounding interval of `m · 2 ^ e` with `0 < m`. The upper gap is one unit of the last
place; the lower gap is half of one when `m` is the smallest normal mantissa above the first
binade, since the number below has a finer spacing. -/
def Interval.ofFinite (m : Nat) (e : Int) : Interval :=
  let narrow := m = Nat.pow 2 52 ∧ -1074 < e
  { low := if narrow then 4 * m - 1 else 4 * m - 2
    mid := 4 * m
    high := 4 * m + 2
    scale := e - 2
    closed := m % 2 == 0 }

def Interval.admits (iv : Interval) (c : Nat) (j : Int) : Bool :=
  let below := compareScaled c j iv.low iv.scale
  let above := compareScaled c j iv.high iv.scale
  (below == .gt || (iv.closed && below == .eq)) && (above == .lt || (iv.closed && above == .eq))

/-- The candidate of the grid `10 ^ j`: of the two neighbours of the value on it, the one in
the interval, or the nearer if both are, with `tie` for an exact tie. -/
def Interval.pick (tie : Tie) (iv : Interval) (j : Int) : Option Nat :=
  let lo := iv.mid * Nat.pow 2 iv.scale.toNat * Nat.pow 10 (-j).toNat /
    (Nat.pow 10 j.toNat * Nat.pow 2 (-iv.scale).toNat)
  let hi := lo + 1
  match iv.admits lo j, iv.admits hi j with
  | true, true =>
    match compareScaled (2 * lo + 1) j (2 * iv.mid) iv.scale with
    | .lt => some hi
    | .gt => some lo
    | .eq => match tie with
      | .up => some hi
      | .even => if lo % 2 = 0 then some lo else some hi
  | true, false => some lo
  | false, true => some hi
  | false, false => none

/-- Removes up to `fuel` trailing zeros from `c · 10 ^ j`, raising `j` for each. -/
def stripZerosUpTo : Nat → Nat → Int → Nat × Int
  | 0, c, j => (c, j)
  | fuel + 1, c, j =>
    if c ≠ 0 ∧ c % 10 = 0 then stripZerosUpTo fuel (c / 10) (j + 1) else (c, j)

def stripZeros (c : Nat) (j : Int) : Nat × Int := stripZerosUpTo c c j

/-- The shortest decimal in the rounding interval of a positive `m · 2 ^ e`, as a significand
without trailing zeros and its power of ten. -/
def shortestOf (tie : Tie) (m : Nat) (e : Int) : Nat × Int :=
  let iv := Interval.ofFinite m e
  let k := floorLog10 (iv.mid * Nat.pow 2 iv.scale.toNat) (Nat.pow 2 (-iv.scale).toNat) + 1
  let found := (List.range 17).findSome? fun i =>
    (iv.pick tie (k - (i + 1 : Nat))).map fun c => (c, k - (i + 1 : Nat))
  match found with
  | some (c, j) => stripZeros c j
  | none => stripZeros m e

end Decimal

namespace Binary64

/-- The shortest decimal that reads back as `x`, with its sign; none for a NaN or an
infinity. Zeros give a zero significand. -/
def toDecimal? (tie : Decimal.Tie) (x : Binary64) : Option Decimal :=
  match x.decode with
  | .finite neg m e =>
    if m = 0 then some ⟨neg, 0, 0⟩
    else
      let (c, j) := Decimal.shortestOf tie m e
      some ⟨neg, c, j⟩
  | _ => none

end Binary64

end RowMetrics
