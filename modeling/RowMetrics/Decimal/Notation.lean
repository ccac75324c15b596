import RowMetrics.Decimal.Shortest

/-!
Writing a decimal as text. A decimal with digits `d₁ … dₙ` is read as `0.d₁…dₙ · 10 ^ k`;
a `Notation` says for which `k` the digits are written positionally, what follows the digits
of a whole number, and writes the others as `d₁.d₂…dₙe±x`. A zero significand is the single
digit `0` with `k = 1`, so zeros need no rule of their own.
-/

namespace RowMetrics

namespace Decimal

/-- How decimals are laid out as text. -/
structure Notation where
  /-- The least `k` written positionally; `none` means no lower limit. -/
  lowestPositional : Option Int
  /-- The greatest `k` written positionally; `none` means no upper limit. -/
  highestPositional : Option Int
  /-- What follows the digits of a positional whole number. -/
  wholeSuffix : String
  deriving DecidableEq, Repr

/-- Positional from `k = -4` to `k = 16`, a whole number ends in `.0`, and the exponent
always carries its sign: `100.0`, `0.00001`, `1e+16`, `1e-7`. -/
def Notation.json : Notation := ⟨some (-4), some 16, ".0"⟩

/-- Always positional, and a whole number has no fraction: `1000000000000000000000`,
`0.0000001`, `-0`. -/
def Notation.plain : Notation := ⟨none, none, ""⟩

def zeros (n : Nat) : List Char := List.replicate n '0'

def Notation.isPositional (nt : Notation) (k : Int) : Bool :=
  (match nt.lowestPositional with | some lo => decide (lo ≤ k) | none => true) &&
  (match nt.highestPositional with | some hi => decide (k ≤ hi) | none => true)

/-- The digits `ds` with `k` placed as in `0.ds · 10 ^ k`, without a sign. -/
def Notation.layout (nt : Notation) (ds : List Char) (k : Int) : List Char :=
  let n := ds.length
  if nt.isPositional k then
    if k ≤ 0 then '0' :: '.' :: (zeros (-k).toNat ++ ds)
    else if k < n then ds.take k.toNat ++ '.' :: ds.drop k.toNat
    else ds ++ zeros (k.toNat - n) ++ nt.wholeSuffix.toList
  else
    let x := k - 1
    let mantissa := match ds with
      | [] => ['0']
      | [d] => [d]
      | d :: rest => d :: '.' :: rest
    mantissa ++ 'e' :: (if x < 0 then '-' else '+') :: Nat.toDigits 10 x.natAbs

/-- The text of a decimal in the notation, with `-` in front of a negative one. -/
def Notation.write (nt : Notation) (d : Decimal) : String :=
  let ds := digitsOf d.significand
  let k := (ds.length : Int) + d.exponent
  let body := if d.significand = 0 then nt.layout ['0'] 1 else nt.layout ds k
  String.ofList ((if d.negative then ['-'] else []) ++ body)

example : Notation.json.write ⟨false, 1, 2⟩ = "100.0" := by decide
example : Notation.json.write ⟨true, 125, -2⟩ = "-1.25" := by decide
example : Notation.json.write ⟨false, 15, -6⟩ = "0.000015" := by decide
example : Notation.json.write ⟨false, 1, 16⟩ = "1e+16" := by decide
example : Notation.json.write ⟨false, 5, -324⟩ = "5e-324" := by decide
example : Notation.json.write ⟨true, 0, 0⟩ = "-0.0" := by decide
example : Notation.plain.write ⟨false, 1, -7⟩ = "0.0000001" := by decide
example : Notation.plain.write ⟨true, 0, 0⟩ = "-0" := by decide

end Decimal

end RowMetrics
