import RowMetrics.Config.Basic
import RowMetrics.Config.Error
import RowMetrics.Query

/-!
Checking a configuration before any polling. The checks run in a fixed order and the first that
fails gives the error: there must be a query, the period must be positive, neither marker may be
empty, and the two markers must differ; then, query by query, the mode literal must name a mode
and the text must only read.
-/

namespace RowMetrics

namespace Config

/-- Checks one query in its place of the list. -/
def checkQuery (index : Nat) (q : QuerySpec) : Except ConfigError Query :=
  match QueryMode.ofLiteral? q.mode with
  | none => .error (.unknownMode index q.mode)
  | some mode =>
    if Query.isReadOnly q.sql then .ok ⟨index, mode, q.sql⟩
    else .error (.unsafeQuery index q.sql)

/-- Checks the queries from position `index` on, stopping at the first refused. -/
def checkQueries (index : Nat) : List QuerySpec → Except ConfigError (List Query)
  | [] => .ok []
  | q :: rest => do
    let first ← checkQuery index q
    let others ← checkQueries (index + 1) rest
    pure (first :: others)

/-- The checked queries of a configuration, or the first reason to refuse it. -/
def validate (c : Config) : Except ConfigError (List Query) :=
  if c.queries.isEmpty then .error .noQueries
  else if c.periodMillis = 0 then .error .invalidPeriod
  else if c.deltaSuffix.isEmpty then .error (.emptyMarker "delta_suffix")
  else if c.keySuffix.isEmpty then .error (.emptyMarker "delta_key_suffix")
  else if c.deltaSuffix = c.keySuffix then .error (.markerOverlap c.deltaSuffix)
  else checkQueries 0 c.queries

end Config

end RowMetrics
