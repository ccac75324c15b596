import RowMetrics.Binary64.Basic

/-!
TOML values: strings, 64-bit integers, floats, booleans, date-times (kept as written), arrays
and tables. A table keeps its keys in the order in which they were defined.
-/

namespace RowMetrics

namespace Toml

/-- A TOML value. -/
inductive Value where
  | string (s : String)
  | integer (n : Int)
  | float (x : Binary64)
  | boolean (b : Bool)
  | datetime (text : String)
  | array (items : List Value)
  | table (entries : List (String × Value))
  deriving Repr, Inhabited

namespace Value

/-- The value under `key`, if this is a table that has one. -/
def get? (v : Value) (key : String) : Option Value :=
  match v with
  | .table entries => entries.lookup key
  | _ => none

end Value

end Toml

end RowMetrics
