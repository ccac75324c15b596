/-!
Binary64 numbers held as their 64 bits, and what a bit pattern stands for: a NaN, a signed
infinity, or a signed finite value `m · 2^e`. Every other operation of the library reads a
number through `Binary64.decode` and builds one through `Binary64.ofFields`, so the layout of
the bits is fixed in this file alone.
-/

namespace RowMetrics

/-- A binary64 floating-point number, held as its bit pattern. -/
structure Binary64 where
  bits : UInt64
  deriving DecidableEq, Inhabited, Repr

namespace Binary64

/-- What a bit pattern denotes. A finite value is `± mantissa · 2 ^ exponent`. -/
inductive Class where
  | nan
  | infinite (negative : Bool)
  | finite (negative : Bool) (mantissa : Nat) (exponent : Int)
  deriving DecidableEq, Repr

/-- The sign bit. -/
def isNegative (x : Binary64) : Bool := x.bits >>> 63 == 1

def biasedExponent (x : Binary64) : Nat := ((x.bits >>> 52) &&& 0x7FF).toNat

def fraction (x : Binary64) : Nat := (x.bits &&& 0xFFFFFFFFFFFFF).toNat

/-- Reads a bit pattern. A zero biased exponent marks a subnormal with scale `2 ^ -1074`;
otherwise the hidden leading bit `2 ^ 52` joins the fraction. -/
def decode (x : Binary64) : Class :=
  if x.biasedExponent = 2047 then
    if x.fraction = 0 then .infinite x.isNegative else .nan
  else if x.biasedExponent = 0 then
    .finite x.isNegative x.fraction (-1074)
  else
    .finite x.isNegative (x.fraction + Nat.pow 2 52) ((x.biasedExponent : Int) - 1075)

/-- Packs a sign, a biased exponent and a fraction into a bit pattern. -/
def ofFields (negative : Bool) (biased fraction : Nat) : Binary64 :=
  ⟨UInt64.ofNat ((if negative then Nat.pow 2 63 else 0) + biased * Nat.pow 2 52 + fraction)⟩

/-- The NaN that arithmetic produces. -/
def nan : Binary64 := ⟨0x7FF8000000000000⟩

/-- The pattern with its sign bit flipped, as negation flips it. -/
def neg (x : Binary64) : Binary64 := ⟨x.bits ^^^ 0x8000000000000000⟩

def infinity (negative : Bool) : Binary64 := ofFields negative 2047 0

def zero (negative : Bool) : Binary64 := ofFields negative 0 0

/-- Whether the pattern is a NaN, of any sign or payload. -/
def isNaN (x : Binary64) : Bool := x.biasedExponent == 2047 && x.fraction != 0

def isFinite (x : Binary64) : Bool := x.biasedExponent != 2047

/-- An integer that orders every non-NaN number as the reals do: both zeros get `0`, and the
magnitude bits grow with the magnitude, infinity above every finite number. -/
def orderKey (x : Binary64) : Int :=
  let magnitude : Int := (x.bits &&& 0x7FFFFFFFFFFFFFFF).toNat
  if x.isNegative then -magnitude else magnitude

/-- The ordering `x < y`: false as soon as either side is a NaN. -/
def lt (x y : Binary64) : Bool := !x.isNaN && !y.isNaN && decide (x.orderKey < y.orderKey)

/-- The ordering `x ≤ y`: false as soon as either side is a NaN. -/
def le (x y : Binary64) : Bool := !x.isNaN && !y.isNaN && decide (x.orderKey ≤ y.orderKey)

example : decode (zero true) = .finite true 0 (-1074) := by decide
example : decode ⟨0x3FF0000000000000⟩ = .finite false (2 ^ 52) (-52) := by decide
example : decode nan = .nan ∧ decode (infinity true) = .infinite true := by decide

end Binary64

end RowMetrics
