import RowMetrics.Binary64.Basic

/-!
Rounding an exact quantity to binary64, and the arithmetic built on it. `Binary64.round`
takes a value `± num / den · 2 ^ scale`, finds the power of two below it, cuts the quotient at
fifty-three bits (fewer for subnormals) and rounds half to even; so `sub`, `div`, `ofInt` and the
decimal reader are each one exact computation followed by one rounding, which is what
IEEE 754 asks of them.
-/

namespace RowMetrics

namespace Binary64

/-- Whether `den · 2 ^ k ≤ num`, for an integer `k` of either sign. -/
def scaledLe (den num : Nat) (k : Int) : Bool :=
  decide (den * Nat.pow 2 k.toNat ≤ num * Nat.pow 2 (-k).toNat)

/-- `⌊log₂ (num / den)⌋` for positive `num` and `den`. The bit lengths place the quotient in
`[2 ^ (k - 1), 2 ^ (k + 1))`, and one comparison picks the half. -/
def floorLog2 (num den : Nat) : Int :=
  let k : Int := (Nat.log2 num : Int) - (Nat.log2 den : Int)
  if scaledLe den num k then k else k - 1

/-- Whether a quotient `q` with remainder `r` over `d` rounds up: past the half, or exactly at
the half with `q` odd. -/
def roundsUp (q r d : Nat) : Bool :=
  decide (d < 2 * r) || (decide (2 * r = d) && q % 2 == 1)

/-- Packs a mantissa `q < 2 ^ 53` at exponent `u ≥ -1074` (value `q · 2 ^ u`), or infinity
when the exponent passes the largest finite binade. -/
def pack (negative : Bool) (q : Nat) (u : Int) : Binary64 :=
  if 971 < u then infinity negative
  else if q < Nat.pow 2 52 then ofFields negative 0 q
  else ofFields negative (u + 1075).toNat (q - Nat.pow 2 52)

/-- The binary64 number nearest to `± num / den · 2 ^ scale`, ties to the even mantissa.
A zero numerator gives a zero of the requested sign, and magnitudes that round to `2 ^ 1024`
or beyond give infinity. -/
def round (negative : Bool) (num den : Nat) (scale : Int) : Binary64 :=
  if num = 0 ∨ den = 0 then zero negative
  else
    let k := floorLog2 num den + scale
    let u := max (k - 52) (-1074)
    let n := num * Nat.pow 2 (scale - u).toNat
    let d := den * Nat.pow 2 (u - scale).toNat
    let q := n / d
    let q := if roundsUp q (n % d) d then q + 1 else q
    if q = Nat.pow 2 53 then pack negative (Nat.pow 2 52) (u + 1) else pack negative q u

def ofInt (n : Int) : Binary64 := round (decide (n < 0)) n.natAbs 1 0

def ofNat (n : Nat) : Binary64 := round false n 1 0

/-- The difference `x - y`. An exact zero is positive unless `x` is `-0` and `y` is `+0`;
infinities of the same sign give NaN. -/
def sub (x y : Binary64) : Binary64 :=
  match x.decode, y.decode with
  | .nan, _ => nan
  | _, .nan => nan
  | .infinite a, .infinite b => if a = b then nan else infinity a
  | .infinite a, .finite _ _ _ => infinity a
  | .finite _ _ _, .infinite b => infinity (!b)
  | .finite a ma ea, .finite b mb eb =>
    let e := min ea eb
    let va : Int := (if a then -1 else 1) * ((ma * Nat.pow 2 (ea - e).toNat : Nat) : Int)
    let vb : Int := (if b then -1 else 1) * ((mb * Nat.pow 2 (eb - e).toNat : Nat) : Int)
    let diff := va - vb
    if diff = 0 then zero (a && !b) else round (decide (diff < 0)) diff.natAbs 1 e

/-- The quotient `x / y`. Zero over zero and infinity over infinity are NaN; a nonzero value
over zero is an infinity with the sign of the quotient. -/
def div (x y : Binary64) : Binary64 :=
  match x.decode, y.decode with
  | .nan, _ => nan
  | _, .nan => nan
  | .infinite _, .infinite _ => nan
  | .infinite a, .finite b _ _ => infinity (a != b)
  | .finite a _ _, .infinite b => zero (a != b)
  | .finite a ma ea, .finite b mb eb =>
    if mb = 0 then (if ma = 0 then nan else infinity (a != b))
    else round (a != b) ma mb (ea - eb)

example : ofNat 1 = ⟨0x3FF0000000000000⟩ := by decide
example : ofInt (-3) = ⟨0xC008000000000000⟩ := by decide
example : div (ofNat 1) (ofNat 10) = ⟨0x3FB999999999999A⟩ := by decide

end Binary64

end RowMetrics
