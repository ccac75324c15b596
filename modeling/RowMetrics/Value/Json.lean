import RowMetrics.Value.Basic
import RowMetrics.Json.Basic

/-!
Values as JSON numbers and strings. An integer is written whole, a finite number with its
shortest digits (a tie between two shortest candidates keeps the even one), and a NaN or an
infinity as `null`. Reading goes the other way, untagged: an integral JSON number in the signed
64-bit range is an integer; any other number is a binary64 number, except one that rounds to an
infinity; a string is text; and nothing else is a value.
-/

namespace RowMetrics

namespace Binary64

/-- A binary64 number as a JSON number, or `null` for a NaN or an infinity. -/
def toJson (x : Binary64) : Json :=
  match x.toDecimal? .even with
  | some d => .number d false
  | none => .null

end Binary64

namespace Value

/-- A value as JSON: a number, `null` for a NaN or an infinity, or a string. -/
def toJson : Value → Json
  | .integer n => Json.ofInt n.toInt
  | .float x => x.toJson
  | .text s => .string s

/-- The value that a JSON number stands for. An integral number is an integer when it fits the
signed 64-bit range and is not a negative zero; otherwise it is rounded to binary64, and a
number beyond the binary64 range is no value. -/
def ofJsonNumber (d : Decimal) (integral : Bool) : Option Value :=
  let whole : Int := if d.negative then -(d.significand : Int) else d.significand
  if integral && d.exponent == 0 && !(d.negative && d.significand == 0) &&
      decide (-Int.pow 2 63 ≤ whole) && decide (whole < Int.pow 2 63) then
    some (.integer (Int64.ofInt whole))
  else
    let x := d.toBinary64
    if x.isFinite then some (.float x) else none

/-- The value that a JSON document stands for, if any. -/
def ofJson? : Json → Option Value
  | .number d integral => ofJsonNumber d integral
  | .string s => some (.text s)
  | _ => none

end Value

end RowMetrics
