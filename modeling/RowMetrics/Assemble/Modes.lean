import RowMetrics.Assemble.Plan
import RowMetrics.ResultSet
import RowMetrics.Record
import RowMetrics.Rate.Observe

/-!
Turning the result of a query into records, by the query's mode, while the rate store follows
every delta value seen. Every cell read becomes a value through `Value.infer`, in column order.

Before any value is read, the rows are checked: each must hold one cell per column, and the
first row that does not ends the assembly with `AssembleError.rowDecode`, the store untouched.
In `multiple-rows` mode a delta column without any key column is refused first, with
`AssembleError.missingKeyColumn`. A record that ends up with no field is dropped.

The reading of a cell may meet the split-character fault; the whole assembly then stops with
that fault, and what it did to the store before is of no further use. The loops also keep the
checks that the row checks make dead: a `multiple-rows` row with delta cells is refused with
`missingKeyColumn` when it has no key, and a cell read past the end of its row is the
`indexOutOfBounds` fault. A refusal inside the loop keeps no store.
-/

namespace RowMetrics

/-- Why the result of a query gave no records. -/
inductive AssembleError where
  /-- A `multiple-rows` query has a delta column but no key column. -/
  | missingKeyColumn (query : Nat)
  /-- A row has another number of cells than expected. -/
  | rowDecode (query row expected found : Nat)
  deriving DecidableEq, Repr

namespace AssembleError

def message : AssembleError → String
  | .missingKeyColumn q =>
    s!"query #{q}: query type multiple-rows requires at least one delta key column"
  | .rowDecode q row expected found =>
    s!"query #{q}, row {row}: expected {expected} values, found {found}"

end AssembleError

/-- What assembling gives: records and the store after them, or an error. The outer layer is
the fault that stops everything. -/
abbrev Assembled := Except Fault (Except AssembleError (RateStore × List Record))

namespace Assemble

/-- The name of the column kept by the replica-delay mode. -/
def delayColumn : String := "Seconds_Behind_Master"

/-- The cells of row `row` as text, `NULL` read as the empty text, if it has `expected` cells. -/
def decodeRow (query row expected : Nat) (cells : List (Option String)) :
    Except AssembleError (List String) :=
  if cells.length = expected then .ok (cells.map (·.getD ""))
  else .error (.rowDecode query row expected cells.length)

/-- Decodes the rows from number `row` on, stopping at the first that fails. -/
def decodeRows (query expected : Nat) : Nat → List (List (Option String)) →
    Except AssembleError (List (List String))
  | _, [] => .ok []
  | row, cells :: rest => do
    let first ← decodeRow query row expected cells
    let others ← decodeRows query expected (row + 1) rest
    pure (first :: others)

/-- Cell `i` of a decoded row; reading past the end of the row is a fault. -/
def cellAt (cells : List String) (i : Nat) : Except Fault String :=
  match cells[i]? with
  | some raw => pure raw
  | none => throw (.indexOutOfBounds i cells.length)

/-- The record as a list of at most one record: none when it has no field. -/
def nonEmpty (r : Record) : List Record := if r.isEmpty then [] else [r]

/-- One row as a record: key and plain cells as they read, delta cells as their rate under the
series of the row (the column name alone when the row has no key). -/
def row (mode : QueryMode) (time : Timestamp) (rowKey : Option String) (plan : List Column)
    (cells : List String) (store : RateStore) : Except Fault (RateStore × Record) :=
  List.foldlM (fun (store, record) (col, raw) => do
      let v ← Value.infer raw
      match col.role with
      | .key | .plain => pure (store, record.insert col.field v)
      | .delta =>
        let series := match rowKey with
          | some k => seriesKey k col.name
          | none => col.name
        let (store, rate) := store.observe series v time
        pure (store, match rate with
          | some r => record.insert col.field r
          | none => record))
    (store, Record.empty mode time) (plan.zip cells)

/-- `single-row`: the first row alone, if any. -/
def singleRow (mk : Markers) (query : Nat) (rs : ResultSet) (time : Timestamp)
    (store : RateStore) : Assembled :=
  match rs.rows with
  | [] => pure (.ok (store, []))
  | first :: _ =>
    match decodeRow query 0 rs.columns.length first with
    | .error e => pure (.error e)
    | .ok cells => do
      let (store, record) ← row .singleRow time none (mk.plan rs.columns) cells store
      pure (.ok (store, nonEmpty record))

/-- Runs `row` over the rows in order, threading the store; `key` gives each row its key before
the row is read, or refuses it. -/
def eachRow (mode : QueryMode) (time : Timestamp)
    (key : List String → Except AssembleError (Option String)) (plan : List Column) :
    List (List String) → RateStore → Assembled
  | [], store => pure (.ok (store, []))
  | cells :: rest, store =>
    match key cells with
    | .error e => pure (.error e)
    | .ok rowKey => do
      let (store, record) ← row mode time rowKey plan cells store
      let more ← eachRow mode time key plan rest store
      pure ((fun (store, recs) => (store, nonEmpty record ++ recs)) <$> more)

/-- The key of a `multiple-rows` row: none when the result has no delta column, else its key
cells joined, and a refusal when it has none. -/
def rowKeyOf (mk : Markers) (query : Nat) (hasDelta : Bool) (columns cells : List String) :
    Except AssembleError (Option String) :=
  if hasDelta then
    match mk.rowKey? columns cells with
    | some k => .ok (some k)
    | none => .error (.missingKeyColumn query)
  else .ok none

/-- `multiple-rows`: one record per row, rates keyed by the row's key cells. -/
def multipleRows (mk : Markers) (query : Nat) (rs : ResultSet) (time : Timestamp)
    (store : RateStore) : Assembled :=
  let plan := mk.plan rs.columns
  let hasDelta := hasRole plan .delta
  if hasDelta && !hasRole plan .key then pure (.error (.missingKeyColumn query))
  else
    match decodeRows query rs.columns.length 0 rs.rows with
    | .error e => pure (.error e)
    | .ok rows => eachRow .multipleRows time (rowKeyOf mk query hasDelta rs.columns) plan rows store

/-- Folds name and value rows into a record: a name with the delta marker is tracked as a rate
under the name itself. -/
def pairs (mk : Markers) (time : Timestamp) : List (List String) → RateStore × Record →
    Except Fault (RateStore × Record)
  | [], acc => pure acc
  | cells :: rest, (store, record) => do
    let name ← cellAt cells 0
    let v ← Value.infer (← cellAt cells 1)
    let acc := match mk.rateField? name with
      | some field =>
        let (store, rate) := store.observe name v time
        (store, match rate with
          | some r => record.insert field r
          | none => record)
      | none => (store, record.insert name v)
    pairs mk time rest acc

/-- `two-columns`: every row is a name and a value, and all fold into one record. -/
def twoColumns (mk : Markers) (query : Nat) (rs : ResultSet) (time : Timestamp)
    (store : RateStore) : Assembled :=
  if rs.rows.isEmpty then pure (.ok (store, []))
  else if rs.columns.length < 2 then pure (.error (.rowDecode query 0 2 rs.columns.length))
  else
    match decodeRows query rs.columns.length 0 rs.rows with
    | .error e => pure (.error e)
    | .ok rows => do
      let (store, record) ← pairs mk time rows (store, Record.empty .twoColumns time)
      pure (.ok (store, nonEmpty record))

/-- `show-slave-delay`: of the first row, only the first column named `Seconds_Behind_Master`. -/
def slaveDelay (query : Nat) (rs : ResultSet) (time : Timestamp) (store : RateStore) :
    Assembled :=
  match rs.rows with
  | [] => pure (.ok (store, []))
  | first :: _ =>
    match decodeRow query 0 rs.columns.length first with
    | .error e => pure (.error e)
    | .ok cells => do
      let record := Record.empty .showSlaveDelay time
      match rs.columns.idxOf? delayColumn with
      | some i =>
        let v ← Value.infer (← cellAt cells i)
        pure (.ok (store, nonEmpty (record.insert delayColumn v)))
      | none => pure (.ok (store, nonEmpty record))

end Assemble

/-- The records of a query's result, by the query's mode, with the store after them. -/
def Query.assemble (mk : Markers) (q : Query) (rs : ResultSet) (time : Timestamp)
    (store : RateStore) : Assembled :=
  match q.mode with
  | .singleRow => Assemble.singleRow mk q.index rs time store
  | .multipleRows => Assemble.multipleRows mk q.index rs time store
  | .twoColumns => Assemble.twoColumns mk q.index rs time store
  | .showSlaveDelay => Assemble.slaveDelay q.index rs time store

end RowMetrics
