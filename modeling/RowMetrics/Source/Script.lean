import RowMetrics.Source.Basic

/-!
A scripted source, for running cycles without a database. Each query text has a queue of
responses, a result or a failure message; a query takes the next response of its queue, and the
last response stays and answers every later query. A text with no response fails. The script
counts the connections made and logs every query text run, and it can be told to refuse every
connection.
-/

namespace RowMetrics

/-- A scripted response: a result, or a failure with its message. -/
inductive Response where
  | rows (result : ResultSet)
  | failure (message : String)
  deriving DecidableEq, Repr

/-- A scripted source. -/
structure Script where
  /-- The responses still to give, by query text, in the order the texts were first scripted. -/
  queues : List (String × List Response) := []
  /-- Every query text run, in order. -/
  executed : List String := []
  connects : Nat := 0
  failConnect : Bool := false
  deriving Repr

namespace Script

def push (s : Script) (sql : String) (r : Response) : Script :=
  match s.queues.lookup sql with
  | some _ =>
    { s with queues := s.queues.map fun (k, q) => if k = sql then (k, q ++ [r]) else (k, q) }
  | none => { s with queues := s.queues ++ [(sql, [r])] }

/-- The response to a query text, and the queue after it: the front is taken while more than
one response waits, and the last one stays. -/
def nextResponse (queue : List Response) : Option Response × List Response :=
  match queue with
  | [] => (none, [])
  | [r] => (some r, [r])
  | r :: rest => (some r, rest)

def unscriptedMessage : String := "no scripted response"

def refusedMessage : String := "scripted connect failure"

def query (s : Script) (sql : String) : Script × Except SourceError ResultSet :=
  let s := { s with executed := s.executed ++ [sql] }
  let (response, queue) := nextResponse ((s.queues.lookup sql).getD [])
  let s := { s with queues := s.queues.map fun (k, q) => if k = sql then (k, queue) else (k, q) }
  match response with
  | some (.rows r) => (s, .ok r)
  | some (.failure m) => (s, .error (.query sql m))
  | none => (s, .error (.query sql unscriptedMessage))

/-- A script is a source that answers from its queues. -/
instance : QuerySource Script where
  connect s :=
    if s.failConnect then .error (.connection refusedMessage)
    else .ok { s with connects := s.connects + 1 }
  query := query
  disconnect s := s

end Script

end RowMetrics
