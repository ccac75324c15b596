import RowMetrics.Beat.Basic

/-!
Polling on a schedule, and the requests that drive a poller. Cycles start at `0, p, 2p, …` for
the period `p`, as long as they start before a time limit; the clock of the poller is not moved
by the schedule. A poller that stops on errors ends at its first failed cycle; one that does not
goes on to the limit. A cancellation given before the start runs no cycle at all.
-/

namespace RowMetrics

namespace Beat

variable {σ : Type} [QuerySource σ]

/-- How a run of the schedule ended. -/
inductive RunEnd where
  /-- Cancelled before the first cycle. -/
  | stopped
  /-- A cycle failed and the poller stops on errors. -/
  | failed (e : BeatError)
  /-- The time limit came. -/
  | timeout
  deriving DecidableEq, Repr

/-- The number of cycles that start before `limit`: at `0, p, 2p, …`. -/
def cyclesBefore (period limit : Nat) : Nat := (limit + period - 1) / period

/-- Runs `n` cycles, or fewer if one fails and the poller stops on errors; returns the records
published and the error that stopped the run. -/
def cycles (b : Beat σ) : Nat → Except Fault (Beat σ × List Record × Option BeatError)
  | 0 => pure (b, [], none)
  | n + 1 => do
    let (b, c) ← b.cycle
    match c.outcome with
    | .error e =>
      if b.stopOnError then pure (b, c.published, some e)
      else
        let (b, later, failure) ← cycles b n
        pure (b, c.published ++ later, failure)
    | .ok _ =>
      let (b, later, failure) ← cycles b n
      pure (b, c.published ++ later, failure)

/-- Runs the schedule until the limit `limit` in milliseconds. -/
def run (b : Beat σ) (cancelled : Bool) (limit : Nat) :
    Except Fault (Beat σ × List Record × RunEnd) :=
  if cancelled then pure (b, [], .stopped)
  else do
    let (b, published, failure) ← b.cycles (cyclesBefore b.periodMillis limit)
    pure (b, published, match failure with
      | some e => .failed e
      | none => .timeout)

inductive Step where
  | cycle
  | advance (millis : UInt64)
  | state (key : String)
  | run (cancelled : Bool) (limit : Nat)
  | pending

/-- The answer to a request, with the records it published. -/
inductive Reply where
  | cycle (c : Cycle)
  | now (t : Timestamp)
  | state (o : Option Observation)
  | run (published : List Record) (e : RunEnd)
  /-- Records published and not yet handed on: every request hands all on. -/
  | pending (n : Nat)

def Reply.published : Reply → List Record
  | .cycle c => c.published
  | .run published _ => published
  | _ => []

/-- Serves one request. Advancing the clock wraps around at `2 ^ 64` milliseconds. -/
def step (b : Beat σ) : Step → Except Fault (Beat σ × Reply)
  | .cycle => do
    let (b, c) ← b.cycle
    pure (b, .cycle c)
  | .advance ms =>
    let b := { b with clock := ⟨b.clock.millis + ms⟩ }
    pure (b, .now b.clock)
  | .state key => pure (b, .state (b.store.get? key))
  | .run cancelled limit => do
    let (b, published, e) ← b.run cancelled limit
    pure (b, .run published e)
  | .pending => pure (b, .pending 0)

/-- Serves the requests in order: each reply with the poller after it, and the fault that
stopped the poller, if one did. -/
def steps (b : Beat σ) : List Step → List (Reply × Beat σ) × Option Fault
  | [] => ([], none)
  | s :: rest =>
    match b.step s with
    | .error f => ([], some f)
    | .ok (b, reply) =>
      let (replies, fault) := steps b rest
      ((reply, b) :: replies, fault)

end Beat

end RowMetrics
