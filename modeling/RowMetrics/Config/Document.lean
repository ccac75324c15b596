import RowMetrics.Config.Env
import RowMetrics.Toml.Reader
import RowMetrics.Json.Basic

/-!
Reading a configuration from a TOML or a JSON document. Both follow one rule: a missing setting
keeps its default, an unknown key is ignored, and a setting of the wrong type or out of its
range refuses the whole document. Durations and the port are unsigned, so a negative number is
out of range; a number with a fraction is of the wrong type. A query needs both its `type` and
its `sql`.

A record of settings (the configuration, the database, a query) may also be written as an
array that lists its settings in the order of their fields; settings past the end of a short
array keep their defaults. A TOML array may run on past the last setting, and the rest is
ignored; a JSON array may not. A TOML date-time in the place of a record gives none of its
settings: the database then keeps its defaults, and a query lacks its `type`.

Any reason to refuse a TOML text, from its syntax to a type, is `ConfigError.parse`.
-/

namespace RowMetrics

namespace Config

section Toml

def tomlUnsigned (bound : Nat) : Toml.Value → Option Nat
  | .integer n => if 0 ≤ n ∧ n < bound then some n.toNat else none
  | _ => none

def tomlText : Toml.Value → Option String
  | .string s => some s
  | _ => none

def tomlBool : Toml.Value → Option Bool
  | .boolean b => some b
  | _ => none

/-- Whether a TOML value holds a record of settings: a table, or an array of them in order. A
date-time counts as a record that gives none of its settings, since the reader hands it over as
a table under a key of its own that no record names. -/
def tomlRecord : Toml.Value → Bool
  | .table _ => true
  | .array _ => true
  | .datetime _ => true
  | _ => false

/-- The setting of a record by its key in a table, or by its place in an array. -/
def tomlSetting (t : Toml.Value) (key : String) (place : Nat) : Option Toml.Value :=
  match t with
  | .array items => items[place]?
  | _ => t.get? key

/-- Reads a setting of a record with `read`, keeping `dflt` when it is absent. -/
def tomlField {α : Type} (t : Toml.Value) (key : String) (place : Nat)
    (read : Toml.Value → Option α) (dflt : α) : Option α :=
  match tomlSetting t key place with
  | some v => read v
  | none => some dflt

/-- Reads an optional setting: present means `some`. -/
def tomlOptional {α : Type} (t : Toml.Value) (key : String) (place : Nat)
    (read : Toml.Value → Option α) (dflt : Option α) : Option (Option α) :=
  match tomlSetting t key place with
  | some v => (read v).map some
  | none => some dflt

def databaseOfToml (v : Toml.Value) : Option Database :=
  if tomlRecord v then do
    let d : Database := {}
    pure {
      hostname := ← tomlField v "hostname" 0 tomlText d.hostname
      port := UInt16.ofNat (← tomlField v "port" 1 (tomlUnsigned portBound) d.port.toNat)
      username := ← tomlOptional v "username" 2 tomlText d.username
      password := ← tomlOptional v "password" 3 tomlText d.password }
  else none

/-- Reads one query; both of its settings are required. -/
def querySpecOfToml (v : Toml.Value) : Option QuerySpec :=
  if tomlRecord v then do
    let mode ← (tomlSetting v "type" 0).bind tomlText
    let sql ← (tomlSetting v "sql" 1).bind tomlText
    pure ⟨mode, sql⟩
  else none

def queriesOfToml : Toml.Value → Option (List QuerySpec)
  | .array items => items.mapM querySpecOfToml
  | _ => none

/-- Reads a configuration from the root table of a TOML document. -/
def ofToml? (t : Toml.Value) : Option Config :=
  if tomlRecord t then do
    let c := Config.default
    pure {
      periodMillis := UInt64.ofNat
        (← tomlField t "period_ms" 0 (tomlUnsigned millisBound) c.periodMillis.toNat)
      deltaSuffix := ← tomlField t "delta_suffix" 1 tomlText c.deltaSuffix
      keySuffix := ← tomlField t "delta_key_suffix" 2 tomlText c.keySuffix
      stateTtlMillis :=
        (← tomlOptional t "state_ttl_ms" 3 (tomlUnsigned millisBound) none).map UInt64.ofNat
      stopOnError := ← tomlField t "stop_on_error" 4 tomlBool c.stopOnError
      database := ← tomlField t "database" 5 databaseOfToml c.database
      queries := ← tomlField t "queries" 6 queriesOfToml c.queries }
  else none

def ofTomlText (text : String) : Except ConfigError Config :=
  match (Toml.parse? text).bind ofToml? with
  | some c => .ok c
  | none => .error .parse

/-- Loads a configuration file, given its contents if it exists, and applies the environment on
top; nothing is checked beyond that. -/
def load (path : String) (contents : Option String) (lookup : String → Option String) :
    Except ConfigError Config :=
  match contents with
  | none => .error (.io path)
  | some text => do applyEnv lookup (← ofTomlText text)

end Toml

section Json

def jsonUnsigned (bound : Nat) : Json → Option Nat
  | .number d true =>
    if d.negative then none
    else
      let n := d.significand * Nat.pow 10 d.exponent.toNat
      if n < bound then some n else none
  | _ => none

def jsonText : Json → Option String
  | .string s => some s
  | _ => none

def jsonBool : Json → Option Bool
  | .bool b => some b
  | _ => none

/-- Whether a JSON value holds a record of `count` settings: an object, or an array of at most
`count` of them in order. -/
def jsonRecord (count : Nat) : Json → Bool
  | .object _ => true
  | .array items => items.length ≤ count
  | _ => false

/-- The setting of a record by its key in an object, or by its place in an array. -/
def jsonSetting (j : Json) (key : String) (place : Nat) : Option Json :=
  match j with
  | .array items => items[place]?
  | _ => j.get? key

/-- Reads a setting of a record with `read`, keeping `dflt` when it is absent. -/
def jsonField {α : Type} (j : Json) (key : String) (place : Nat) (read : Json → Option α)
    (dflt : α) : Option α :=
  match jsonSetting j key place with
  | some v => read v
  | none => some dflt

/-- Reads an optional setting: `null` or absent means none. -/
def jsonOptional {α : Type} (j : Json) (key : String) (place : Nat) (read : Json → Option α) :
    Option (Option α) :=
  match jsonSetting j key place with
  | some .null => some none
  | some v => (read v).map some
  | none => some none

def databaseOfJson (j : Json) : Option Database :=
  if jsonRecord 4 j then do
    let d : Database := {}
    pure {
      hostname := ← jsonField j "hostname" 0 jsonText d.hostname
      port := UInt16.ofNat (← jsonField j "port" 1 (jsonUnsigned portBound) d.port.toNat)
      username := ← jsonOptional j "username" 2 jsonText
      password := ← jsonOptional j "password" 3 jsonText }
  else none

/-- Reads one query; both of its settings are required. -/
def querySpecOfJson (j : Json) : Option QuerySpec :=
  if jsonRecord 2 j then do
    let mode ← (jsonSetting j "type" 0).bind jsonText
    let sql ← (jsonSetting j "sql" 1).bind jsonText
    pure ⟨mode, sql⟩
  else none

def queriesOfJson : Json → Option (List QuerySpec)
  | .array items => items.mapM querySpecOfJson
  | _ => none

def ofJson? (j : Json) : Option Config :=
  if jsonRecord 7 j then do
    let c := Config.default
    pure {
      periodMillis := UInt64.ofNat
        (← jsonField j "period_ms" 0 (jsonUnsigned millisBound) c.periodMillis.toNat)
      deltaSuffix := ← jsonField j "delta_suffix" 1 jsonText c.deltaSuffix
      keySuffix := ← jsonField j "delta_key_suffix" 2 jsonText c.keySuffix
      stateTtlMillis :=
        (← jsonOptional j "state_ttl_ms" 3 (jsonUnsigned millisBound)).map UInt64.ofNat
      stopOnError := ← jsonField j "stop_on_error" 4 jsonBool c.stopOnError
      database := ← jsonField j "database" 5 databaseOfJson c.database
      queries := ← jsonField j "queries" 6 queriesOfJson c.queries }
  else none

end Json

end Config

end RowMetrics
