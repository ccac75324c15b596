import RowMetrics.Json.Basic

/-!
The configuration of a poller: how often it polls, the two column markers, how long rate series
live without a sighting, whether it stops after a failed cycle, where the database is, and the
queries as written. Every setting has a default, and `Config.toJson` writes all of them.
-/

namespace RowMetrics

/-- Where the database is, and as whom to log in. -/
structure Database where
  hostname : String := "127.0.0.1"
  port : UInt16 := 3306
  username : Option String := none
  password : Option String := none
  deriving DecidableEq, Repr

/-- Where the server listens, as `host:port`. -/
def Database.endpoint (db : Database) : String :=
  db.hostname ++ ":" ++ toString db.port.toNat

/-- A query as written in the configuration: its mode literal and its text. -/
structure QuerySpec where
  mode : String
  sql : String
  deriving DecidableEq, Repr

/-- The configuration of a poller. Durations are in milliseconds. -/
structure Config where
  periodMillis : UInt64 := 1000
  deltaSuffix : String := "__DELTA"
  keySuffix : String := "__DELTAKEY"
  stateTtlMillis : Option UInt64 := none
  stopOnError : Bool := true
  database : Database := {}
  queries : List QuerySpec := []
  deriving DecidableEq, Repr

namespace Config

/-- Durations are unsigned 64-bit counts of milliseconds, so they lie below this bound. -/
def millisBound : Nat := Nat.pow 2 64

/-- Ports are unsigned 16-bit numbers, so they lie below this bound. -/
def portBound : Nat := Nat.pow 2 16

def default : Config := {}

def optionalText : Option String → Json
  | some s => .string s
  | none => .null

def toJson (c : Config) : Json :=
  .object [
    ("period_ms", Json.ofNat c.periodMillis.toNat),
    ("delta_suffix", .string c.deltaSuffix),
    ("delta_key_suffix", .string c.keySuffix),
    ("state_ttl_ms", match c.stateTtlMillis with
      | some t => Json.ofNat t.toNat
      | none => .null),
    ("stop_on_error", .bool c.stopOnError),
    ("database", .object [
      ("hostname", .string c.database.hostname),
      ("port", Json.ofNat c.database.port.toNat),
      ("username", optionalText c.database.username),
      ("password", optionalText c.database.password)]),
    ("queries", .array (c.queries.map fun q =>
      .object [("type", .string q.mode), ("sql", .string q.sql)]))]

end Config

end RowMetrics
