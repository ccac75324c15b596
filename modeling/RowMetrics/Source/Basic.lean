import RowMetrics.ResultSet

/-!
Sources of query results. A source is a value that is connected at the start of a cycle, asked
one query text after the other, and disconnected at the end; each answer is a result or a
`SourceError`, and the source may change with every request, as a script moves to its next
response.
-/

namespace RowMetrics

/-- Why a source gave no result. -/
inductive SourceError where
  /-- No connection could be made. -/
  | connection (message : String)
  /-- A query failed. -/
  | query (sql : String) (message : String)
  deriving DecidableEq, Repr

namespace SourceError

def message : SourceError → String
  | .connection m => s!"connection error: {m}"
  | .query sql m => s!"query failed: {m} (sql: {sql})"

end SourceError

/-- What a cycle asks of a source. -/
class QuerySource (σ : Type) where
  /-- Opens a connection, or says why none could be made. -/
  connect : σ → Except SourceError σ
  query : σ → String → σ × Except SourceError ResultSet
  disconnect : σ → σ

end RowMetrics
