/-!
The result of one query: column names and rows of cells, where a cell is text or SQL `NULL`.
-/

namespace RowMetrics

/-- The result of one query. A row may hold more or fewer cells than there are columns; the
assembly of records checks that. -/
structure ResultSet where
  columns : List String
  rows : List (List (Option String))
  deriving DecidableEq, Repr, Inhabited

namespace ResultSet

/-- A result with columns and no rows. -/
def empty (columns : List String) : ResultSet := ⟨columns, []⟩

/-- A result whose cells are all text. -/
def ofTextRows (columns : List String) (rows : List (List String)) : ResultSet :=
  ⟨columns, rows.map (·.map some)⟩

def size (r : ResultSet) : Nat := r.rows.length

def isEmpty (r : ResultSet) : Bool := r.rows.isEmpty

end ResultSet

end RowMetrics
