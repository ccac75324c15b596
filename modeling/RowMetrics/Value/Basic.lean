import RowMetrics.Value.Integer
import RowMetrics.Decimal.Literal
import RowMetrics.Decimal.Notation

/-!
The value of one metric field: a signed 64-bit integer, a binary64 number, or text. A raw cell
is read as the first of these that fits: an integer literal, then a floating-point literal, then
the text itself; so `"3"` is an integer although it is a float literal too.
-/

namespace RowMetrics

namespace Binary64

/-- The text of a binary64 number for reading by people: `NaN`, `inf`, `-inf`, or the shortest
digits that read back, never with an exponent and with no fraction for a whole number; a tie
between two shortest candidates goes to the larger. -/
def display (x : Binary64) : String :=
  match x.decode with
  | .nan => "NaN"
  | .infinite negative => if negative then "-inf" else "inf"
  | .finite _ _ _ =>
    match x.toDecimal? .up with
    | some d => Decimal.Notation.plain.write d
    | none => "NaN"

end Binary64

/-- The value of one metric field. -/
inductive Value where
  | integer (n : Int64)
  | float (x : Binary64)
  | text (s : String)
  deriving DecidableEq, Repr, Inhabited

namespace Value

/-- Which of the three shapes a value has. -/
inductive Kind where
  | integer
  | float
  | text
  deriving DecidableEq, Repr

def kind : Value → Kind
  | .integer _ => .integer
  | .float _ => .float
  | .text _ => .text

/-- Reads a raw cell: an integer literal, else a floating-point literal, else the text. The
integer reading may meet the split-character fault, which then stands for the whole reading. -/
def infer (raw : String) : Except Fault Value := do
  match ← readInteger raw with
  | some n => pure (.integer n)
  | none =>
    match Binary64.ofString? raw with
    | some x => pure (.float x)
    | none => pure (.text raw)

/-- The value as a binary64 number; an integer is rounded to the nearest one, and text has
none. -/
def toBinary64? : Value → Option Binary64
  | .integer n => some (Binary64.ofInt n.toInt)
  | .float x => some x
  | .text _ => none

/-- The text of a value for reading by people: an integer in decimal, a number as
`Binary64.display` writes it, and text as it is. -/
def display : Value → String
  | .integer n => toString n.toInt
  | .float x => Binary64.display x
  | .text s => s

example : display (.integer (-5)) = "-5" := by decide
example : infer "1e3" = .ok (.float ⟨0x408F400000000000⟩) := rfl
example : infer "x" = .ok (.text "x") := rfl
example : infer "aé" = .error .splitCharacter := rfl

end Value

end RowMetrics
