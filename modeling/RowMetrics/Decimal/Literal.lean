import RowMetrics.Decimal.Basic

/-!
Floating-point literals: an optional sign, then either one of the words `inf`, `infinity` and
`nan` in any case, or a numeral with at least one digit, at most one point and an optional
exponent `e` or `E` with its own sign. Nothing else may stand around it, not even blanks. The
numeral is read exactly and rounded once, through `Decimal.toBinary64`.
-/

namespace RowMetrics

namespace Decimal

def lowerAscii (cs : List Char) : List Char := cs.map Char.toLower

def spanDigits (cs : List Char) : List Char × List Char :=
  (cs.takeWhile Char.isDigit, cs.dropWhile Char.isDigit)

/-- Reads an exponent part, `e` or `E`, an optional sign and at least one digit, as the whole
rest of the text. The empty text is the exponent zero. -/
def readExponent : List Char → Option Int
  | [] => some 0
  | c :: rest =>
    if c = 'e' ∨ c = 'E' then
      let (negative, body) := match rest with
        | '+' :: r => (false, r)
        | '-' :: r => (true, r)
        | r => (false, r)
      let (ds, tail) := spanDigits body
      if ds.isEmpty || !tail.isEmpty then none
      else
        let v : Int := valueOfDigits ds
        some (if negative then -v else v)
    else none

/-- Reads an unsigned numeral: digits, an optional point with digits after it, at least one
digit in all, then an optional exponent. -/
def readNumeral (negative : Bool) (cs : List Char) : Option Decimal :=
  let (whole, rest) := spanDigits cs
  let (fraction, rest) := match rest with
    | '.' :: r => spanDigits r
    | r => ([], r)
  if whole.isEmpty && fraction.isEmpty then none
  else
    (readExponent rest).map fun x =>
      ⟨negative, valueOfDigits (whole ++ fraction), x - fraction.length⟩

end Decimal

namespace Binary64

/-- What a floating-point literal denotes, read without its sign. -/
def readUnsigned (negative : Bool) (cs : List Char) : Option Binary64 :=
  let word := Decimal.lowerAscii cs
  if word = "inf".toList ∨ word = "infinity".toList then some (infinity negative)
  else if word = "nan".toList then some (if negative then nan.neg else nan)
  else (Decimal.readNumeral negative cs).map Decimal.toBinary64

/-- Reads a floating-point literal, correctly rounded; `none` when the text is not one. -/
def ofString? (s : String) : Option Binary64 :=
  match s.toList with
  | '+' :: rest => readUnsigned false rest
  | '-' :: rest => readUnsigned true rest
  | cs => readUnsigned false cs

example : ofString? "1e3" = some ⟨0x408F400000000000⟩ := by decide
example : ofString? "-0.0" = some (zero true) := by decide
example : ofString? ".5" = some ⟨0x3FE0000000000000⟩ := by decide
example : ofString? "5." = some ⟨0x4014000000000000⟩ := by decide
example : ofString? "-InFinity" = some (infinity true) := by decide
example : ofString? "-NaN" = some ⟨0xFFF8000000000000⟩ := by decide
example : ofString? "." = none ∧ ofString? "1e" = none ∧ ofString? " 1" = none := by decide

end Binary64

end RowMetrics
