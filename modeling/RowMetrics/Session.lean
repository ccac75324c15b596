import RowMetrics.Assemble.Modes

/-!
A session: one rate store and one pair of markers, driven by a list of steps. A step observes a
value, reads an entry, evicts stale entries, assembles the result of a query, or asks whether
the store is empty; each step's reply comes with the number of series in the store after it.

A fault stops the session: the step that meets it has no reply, and no later step runs.
-/

namespace RowMetrics

namespace Session

/-- One request to a session. A value comes as the reading of a cell, which may fault. -/
inductive Step where
  | observe (key : String) (value : Except Fault Value) (time : Timestamp)
  | get (key : String)
  | evict (now : Timestamp) (ttl : Nat)
  | assemble (mode : String) (query : Nat) (time : Timestamp) (result : ResultSet)
  | size

/-- The reply to one step. -/
inductive Reply where
  | rate (r : Option Value)
  | state (o : Option Observation)
  | evicted (n : Nat)
  | records (rs : List Record)
  /-- The mode literal of an assembly step names no mode. -/
  | unknownMode (literal : String)
  | assembleError (e : AssembleError)
  | isEmpty (b : Bool)

/-- Runs one step on the store: the store after it and the reply, or the fault that stops the
session. An assembly that fails leaves the store as it was. -/
def step (mk : Markers) (store : RateStore) : Step → Except Fault (RateStore × Reply)
  | .observe key value time => do
    let v ← value
    let (store, rate) := store.observe key v time
    pure (store, .rate rate)
  | .get key => pure (store, .state (store.get? key))
  | .evict now ttl =>
    let (store, n) := store.evictStale now ttl
    pure (store, .evicted n)
  | .assemble literal query time result =>
    match QueryMode.ofLiteral? literal with
    | none => pure (store, .unknownMode literal)
    | some mode => do
      match ← Query.assemble mk ⟨query, mode, ""⟩ result time store with
      | .ok (store, records) => pure (store, .records records)
      | .error e => pure (store, .assembleError e)
  | .size => pure (store, .isEmpty store.isEmpty)

/-- Runs the steps in order: each reply with the store size after its step, and the fault that
stopped the session, if one did. -/
def run (mk : Markers) : RateStore → List Step → List (Reply × Nat) × Option Fault
  | _, [] => ([], none)
  | store, s :: rest =>
    match step mk store s with
    | .error f => ([], some f)
    | .ok (store, reply) =>
      let (replies, fault) := run mk store rest
      ((reply, store.size) :: replies, fault)

end Session

end RowMetrics
