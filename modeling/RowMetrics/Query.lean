import RowMetrics.Text.Blank
import RowMetrics.Text.Upper

/-!
Queries and how their results become records. A query has one of four modes, each written as
a fixed literal; a query may only read, which here means that its text, without surrounding
blanks and in upper case, begins with `SELECT` or `SHOW` and holds no `;` anywhere.
-/

namespace RowMetrics

/-- How the rows of a query's result become records. -/
inductive QueryMode where
  /-- The first row makes one record. -/
  | singleRow
  /-- Every row makes its own record, with rate series keyed by the row's key columns. -/
  | multipleRows
  /-- Every row is a name and a value, and all rows fold into one record. -/
  | twoColumns
  /-- The first row makes one record holding only the replica delay column. -/
  | showSlaveDelay
  deriving DecidableEq, Repr, Inhabited

namespace QueryMode

/-- All modes, in the order in which a literal is looked up. -/
def all : List QueryMode := [.singleRow, .multipleRows, .twoColumns, .showSlaveDelay]

def literal : QueryMode → String
  | .singleRow => "single-row"
  | .multipleRows => "multiple-rows"
  | .twoColumns => "two-columns"
  | .showSlaveDelay => "show-slave-delay"

/-- The mode that a literal names, exactly and case-sensitively. -/
def ofLiteral? (s : String) : Option QueryMode := all.find? (·.literal == s)

theorem ofLiteral?_literal (m : QueryMode) : ofLiteral? m.literal = some m := by
  cases m <;> decide

end QueryMode

/-- A checked query, ready to poll: its place in the configured list, its mode and its text. -/
structure Query where
  index : Nat
  mode : QueryMode
  sql : String
  deriving DecidableEq, Repr

namespace Query

/-- The verbs with which a read-only query may begin. -/
def readVerbs : List String := ["SELECT", "SHOW"]

/-- Whether a query text only reads: trimmed of White_Space and put in upper case, it begins
with `SELECT` or `SHOW`, and it holds no `;`. -/
def isReadOnly (sql : String) : Bool :=
  let clean := Text.upper (Text.trimBlanks sql.toList)
  readVerbs.any (fun verb => verb.toList.isPrefixOf clean) && !clean.contains ';'

example : isReadOnly "  select 1 " = true := by decide
example : isReadOnly "ſhow variables" = true := by decide
example : isReadOnly "SELECT 1; DROP TABLE t" = false := by decide

end Query

end RowMetrics
