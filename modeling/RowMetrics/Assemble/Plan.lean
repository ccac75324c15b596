import RowMetrics.Text.Suffix

/-!
The roles of the columns of a result. Two markers, both suffixes of column names, give a column
its role: a name ending with the key marker is a key column, which is emitted under the name
without the marker and whose cells identify a row; otherwise a name ending with the delta marker
is a delta column, whose values are tracked as a rate and emitted under the name without the
marker followed by `_PERSECOND`; every other column is plain and emitted as it is. The key
marker is checked first.

A row's key is the concatenation of its key cells in column order, and the series of a delta
column in that row is the row key followed by the column name.
-/

namespace RowMetrics

/-- The two column-name suffixes that mark delta and key columns. -/
structure Markers where
  delta : String
  key : String
  deriving DecidableEq, Repr

namespace Markers

/-- The markers used when none are configured. -/
def standard : Markers := ⟨"__DELTA", "__DELTAKEY"⟩

def perSecondSuffix : String := "_PERSECOND"

/-- The field under which the rate of a delta column is emitted: the name without the delta
marker, then `_PERSECOND`; none when the name lacks the marker. -/
def rateField? (mk : Markers) (name : String) : Option String :=
  (Text.stripSuffix? name mk.delta).map (· ++ perSecondSuffix)

def isKeyColumn (mk : Markers) (name : String) : Bool := Text.endsWith name mk.key

/-- The key of a row: the cells of its key columns, in column order, joined. Columns and cells
are paired up to the shorter list; none when no paired column is a key column. -/
def rowKey? (mk : Markers) (columns cells : List String) : Option String :=
  let keyCells := ((columns.zip cells).filter (fun p => mk.isKeyColumn p.1)).map (·.2)
  if keyCells.isEmpty then none else some (String.join keyCells)

end Markers

/-- The series of a delta column within a row with key `rowKey`. -/
def seriesKey (rowKey column : String) : String := rowKey ++ column

/-- What a column contributes to a record. -/
inductive Role where
  | key
  | delta
  | plain
  deriving DecidableEq, Repr

/-- A column with its role and the field it is emitted under. -/
structure Column where
  name : String
  field : String
  role : Role
  deriving DecidableEq, Repr

namespace Markers

/-- The role of a column and its field: the key marker first, then the delta marker. -/
def column (mk : Markers) (name : String) : Column :=
  match Text.stripSuffix? name mk.key with
  | some base => ⟨name, base, .key⟩
  | none =>
    match mk.rateField? name with
    | some field => ⟨name, field, .delta⟩
    | none => ⟨name, name, .plain⟩

def plan (mk : Markers) (columns : List String) : List Column := columns.map mk.column

end Markers

def hasRole (plan : List Column) (r : Role) : Bool := plan.any (·.role == r)

end RowMetrics
