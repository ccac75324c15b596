import RowMetrics.Source.Basic
import RowMetrics.Text.Utf8

/-!
A database server reached over the network, as a source. The server answers each query text
from a script: a result set with column names and cells as raw bytes (or `NULL`), an OK packet
with no result set, or an error with its code, SQL state and message. Answers for one text are
used in order, and the last repeats; a text with no answer gets error 1146, state `42S02`.

Bytes become text by lossy UTF-8 decoding. An OK packet gives a result with no columns and no
rows. A server error fails the query with the text `Server error: ERROR state (code): message`
in the quoting of the server's client library. No connection is made when the network does not
reach the server, or when the server refuses the login.
-/

namespace RowMetrics

/-- An error as the server reports it. -/
structure ServerError where
  code : Nat
  state : String
  message : String
  deriving DecidableEq, Repr

namespace ServerError

/-- The text of the error as the client library words it. -/
def text (e : ServerError) : String :=
  let code := e.code
  let state := e.state
  let message := e.message
  s!"Server error: `ERROR {state} ({code}): {message}'"

end ServerError

/-- What the server answers to one query text. -/
inductive ServerReply where
  | resultSet (columns : List (List UInt8)) (rows : List (List (Option (List UInt8))))
  | ok
  | error (e : ServerError)
  deriving DecidableEq, Repr

/-- A scripted database server, as a source. -/
structure Server where
  /-- Where the server listens, as `host:port`. -/
  endpoint : String
  reachable : Bool
  /-- The error with which it refuses every login, if it does. -/
  refusal : Option ServerError := none
  /-- The answers still to give, by query text. -/
  queues : List (String × List ServerReply) := []
  deriving Repr

namespace Server

/-- The answer for a query text that has no script. -/
def unscripted : ServerError := ⟨1146, "42S02", "no scripted response"⟩

def push (s : Server) (sql : String) (r : ServerReply) : Server :=
  match s.queues.lookup sql with
  | some _ =>
    { s with queues := s.queues.map fun (k, q) => if k = sql then (k, q ++ [r]) else (k, q) }
  | none => { s with queues := s.queues ++ [(sql, [r])] }

/-- The result set that an answer gives the client. -/
def resultOf (columns : List (List UInt8)) (rows : List (List (Option (List UInt8)))) : ResultSet :=
  ⟨columns.map Text.decodeLossy, rows.map (·.map (·.map Text.decodeLossy))⟩

def query (s : Server) (sql : String) : Server × Except SourceError ResultSet :=
  let (reply, queue) := match (s.queues.lookup sql).getD [] with
    | [] => (ServerReply.error unscripted, [])
    | [r] => (r, [r])
    | r :: rest => (r, rest)
  let s := { s with queues := s.queues.map fun (k, q) => if k = sql then (k, queue) else (k, q) }
  match reply with
  | .resultSet columns rows => (s, .ok (resultOf columns rows))
  | .ok => (s, .ok ⟨[], []⟩)
  | .error e => (s, .error (.query sql e.text))

def connect (s : Server) : Except SourceError Server :=
  let endpoint := s.endpoint
  if !s.reachable then .error (.connection s!"failed to connect to {endpoint}: network unreachable")
  else match s.refusal with
    | some e =>
      let reason := e.text
      .error (.connection s!"failed to connect to {endpoint}: {reason}")
    | none => .ok s

/-- A server is a source: connecting checks the network and the login. -/
instance : QuerySource Server where
  connect := connect
  query := query
  disconnect s := s

end Server

end RowMetrics
