import RowMetrics.Cli
import Std.Time.Format

/-!
The command line takes one optional argument, the configuration path. The program reads its
configuration from the path that `Cli.configPath` names, applies the environment, and then
polls the database at once and after every period, writing each record as a JSON line on
standard output and each failure on standard error. A configuration that cannot be loaded or
checked, or a failed cycle of a poller that stops on errors, ends it with exit code 1; a fault
ends it with code 101.

This build carries no database client, so the network reaches no server: every cycle fails to
connect, and the failure is reported as the client library words it.
-/

namespace RowMetrics

namespace Cli

/-- The wall clock, in milliseconds since the Unix epoch. -/
def wallClock : IO Timestamp := do
  let now ← Std.Time.Timestamp.now
  pure (Timestamp.ofNatSaturating now.toMillisecondsSinceUnixEpoch.val.toNat)

/-- Sleeps for `ms` milliseconds, in steps that the timer can hold. -/
def sleepMillis (ms : Nat) : IO Unit := do
  let step : Nat := 1000000000
  for _ in [0:ms / step] do
    IO.sleep step.toUInt32
  IO.sleep (ms % step).toUInt32

/-- Writes records to standard output, one line each, and flushes it. -/
def publish (records : List Record) : IO Unit := do
  let out ← IO.getStdout
  for r in records do
    out.putStrLn r.line
  out.flush

/-- Polls on the schedule `start, start + p, …`; a cycle that ends after the next start moves
the schedule to its own end. Returns the exit code. -/
partial def poll (b : Beat Server) (start : Nat) : IO UInt32 := do
  let b := { b with clock := ← wallClock }
  match b.cycle with
  | .error f =>
    let reason := f.message
    IO.eprintln s!"fault: {reason}"
    pure 101
  | .ok (b, c) =>
    publish c.published
    let next := start + b.periodMillis
    let onward : IO UInt32 := do
      let now ← IO.monoMsNow
      sleepMillis (next - now)
      poll b (max next now)
    match c.outcome with
    | .error e =>
      let reason := e.message
      if b.stopOnError then
        IO.eprintln s!"cycle failed, stopping: {reason}"
        pure 1
      else
        IO.eprintln s!"cycle failed, continuing with next tick: {reason}"
        onward
    | .ok _ => onward

def readFile? (path : String) : IO (Option String) := do
  try
    pure (some (← IO.FS.readFile path))
  catch _ =>
    pure none

end Cli

end RowMetrics

open RowMetrics in
def main (args : List String) : IO UInt32 := do
  let mut env : List (String × String) := []
  for name in Cli.variableNames do
    if let some v ← IO.getEnv name then
      env := env ++ [(name, v)]
  let path := Cli.configPath ⟨args, env, []⟩
  let contents ← Cli.readFile? path
  match Config.load path contents (fun name => env.lookup name) with
  | .error e =>
    let reason := e.message
    IO.eprintln s!"invalid configuration: {reason}"
    pure 1
  | .ok config =>
    let server : Server := { endpoint := config.database.endpoint, reachable := false }
    match Beat.create config server (← Cli.wallClock) with
    | .error e =>
      let reason := e.message
      IO.eprintln s!"invalid configuration: {reason}"
      pure 1
    | .ok beat => Cli.poll beat (← IO.monoMsNow)
