import RowMetrics.Beat.Run
import RowMetrics.Config.Document
import RowMetrics.Source.Server

/-!
The command-line program, as a function of what it is given. The configuration path is the
first argument, else the variable named by `configVar`, else the file `defaultPath`. The file
is read, the environment applied, the poller built, and then it polls at once and after every
period, writing each record as a JSON line.

The program ends only through an error: a configuration that cannot be loaded or checked, or
a failed cycle when it stops on errors; each ends it with exit code 1, after the lines written
before. A poller that does not stop on errors never ends by itself, and a fault aborts it.

A scripted server answers the same way once every script is at its last answer, so a run that
has not failed after as many cycles as there are scripted answers, and one more, never fails.
-/

namespace RowMetrics

namespace Cli

/-- What the program is given: its arguments, its environment and the files it can read. -/
structure Invocation where
  args : List String
  env : List (String × String)
  files : List (String × String)

/-- How the program ends. -/
inductive Exit where
  /-- It exits with a code, having written these lines. -/
  | code (n : Nat) (stdout : List String)
  /-- It polls until it is stopped from outside. -/
  | polling
  /-- It stops at a fault. -/
  | aborted
  deriving DecidableEq, Repr

def configVar : String := "SQLBEAT_CONFIG"

/-- The configuration file read when nothing names one. -/
def defaultPath : String := "sqlbeat.toml"

/-- The variables of the environment that the program reads. -/
def variableNames : List String :=
  [configVar, Config.hostnameVar, Config.portVar, Config.usernameVar, Config.passwordVar,
    Config.periodVar]

def configPath (inv : Invocation) : String :=
  match inv.args with
  | p :: _ => p
  | [] => (inv.env.lookup configVar).getD defaultPath

/-- Runs the program against a server that the network may or may not reach; `now` is the time
that the clock reads. -/
def run (inv : Invocation) (server : Database → Server) (now : Timestamp) : Exit :=
  let path := configPath inv
  match Config.load path (inv.files.lookup path) (fun name => inv.env.lookup name) with
  | .error _ => .code 1 []
  | .ok config =>
    match Beat.create config (server config.database) now with
    | .error _ => .code 1 []
    | .ok beat =>
      let bound := beat.source.queues.foldl (fun n q => n + q.2.length) 0 + 1
      match beat.cycles bound with
      | .error _ => .aborted
      | .ok (_, published, some _) => .code 1 (published.map Record.line)
      | .ok (_, _, none) => .polling

end Cli

end RowMetrics
