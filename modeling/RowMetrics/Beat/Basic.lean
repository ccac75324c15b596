import RowMetrics.Source.Basic
import RowMetrics.Config.Validate
import RowMetrics.Assemble.Modes

/-!
The poller and its cycle. A poller holds its checked queries, the markers, the rate store, a
source and a clock. One cycle takes the time once, connects, runs every query in order and turns
each result into records, which are published at once; then it disconnects. A source error ends
the cycle, and so does a row of the wrong length; a `multiple-rows` query without a key column
is only skipped. After a cycle that ended well, series not seen within the time to live are
evicted, measured from the start of the cycle. Records published before an error stay
published.

A fault while reading a cell stops everything; so every step is in `Except Fault`.
-/

namespace RowMetrics

/-- Why a cycle ended early. -/
inductive BeatError where
  | source (e : SourceError)
  | assemble (e : AssembleError)
  deriving DecidableEq, Repr

def BeatError.message : BeatError → String
  | .source e => e.message
  | .assemble e => e.message

/-- What a cycle that ended well reports. -/
structure CycleReport where
  startedAt : Timestamp
  records : Nat
  skippedQueries : Nat
  evictedSeries : Nat
  deriving DecidableEq, Repr

/-- What a cycle did: the records it published, in order, and its report or its error. -/
structure Cycle where
  published : List Record
  outcome : Except BeatError CycleReport

/-- A poller over a source of type `σ`. -/
structure Beat (σ : Type) where
  queries : List Query
  markers : Markers
  store : RateStore
  source : σ
  clock : Timestamp
  periodMillis : Nat
  stateTtlMillis : Option Nat
  stopOnError : Bool

namespace Beat

variable {σ : Type} [QuerySource σ]

/-- A poller for a configuration, if the configuration passes its checks; the store is empty
and the clock reads `now`. -/
def create (c : Config) (source : σ) (now : Timestamp) : Except ConfigError (Beat σ) := do
  let queries ← c.validate
  pure {
    queries, source, store := RateStore.empty, clock := now
    markers := ⟨c.deltaSuffix, c.keySuffix⟩
    periodMillis := c.periodMillis.toNat
    stateTtlMillis := c.stateTtlMillis.map UInt64.toNat
    stopOnError := c.stopOnError }

/-- What running the queries of a cycle leaves: the source, the store, the records published,
the number of queries skipped, and the error that ended the run, if one did. -/
structure Progress (σ : Type) where
  source : σ
  store : RateStore
  published : List Record
  skipped : Nat
  failure : Option BeatError

/-- Runs the queries in order from `p`, at time `time`, until one ends the cycle. -/
def runQueries (mk : Markers) (time : Timestamp) :
    List Query → Progress σ → Except Fault (Progress σ)
  | [], p => pure p
  | q :: rest, p =>
    let (source, answer) := QuerySource.query p.source q.sql
    let p := { p with source }
    match answer with
    | .error e => pure { p with failure := some (.source e) }
    | .ok result => do
      match ← q.assemble mk result time p.store with
      | .ok (store, records) =>
        runQueries mk time rest { p with store, published := p.published ++ records }
      | .error (.missingKeyColumn _) =>
        runQueries mk time rest { p with skipped := p.skipped + 1 }
      | .error e => pure { p with failure := some (.assemble e) }

def cycle (b : Beat σ) : Except Fault (Beat σ × Cycle) := do
  let startedAt := b.clock
  match QuerySource.connect b.source with
  | .error e => pure (b, ⟨[], .error (.source e)⟩)
  | .ok source =>
    let p ← runQueries b.markers startedAt b.queries ⟨source, b.store, [], 0, none⟩
    let b := { b with source := QuerySource.disconnect p.source, store := p.store }
    match p.failure with
    | some e => pure (b, ⟨p.published, .error e⟩)
    | none =>
      let (store, evicted) := match b.stateTtlMillis with
        | some ttl => b.store.evictStale startedAt ttl
        | none => (b.store, 0)
      let report : CycleReport := ⟨startedAt, p.published.length, p.skipped, evicted⟩
      pure ({ b with store }, ⟨p.published, .ok report⟩)

end Beat

end RowMetrics
