import RowMetrics.Text.Quoted

/-!
Why a configuration is refused. Each cause has one message, written by `ConfigError.message`.
-/

namespace RowMetrics

/-- Why a configuration cannot be used. -/
inductive ConfigError where
  /-- The configuration file could not be read. -/
  | io (path : String)
  /-- The configuration text is no valid document of the expected shape. -/
  | parse
  | noQueries
  | unknownMode (index : Nat) (mode : String)
  | unsafeQuery (index : Nat) (sql : String)
  | emptyMarker (name : String)
  | markerOverlap (marker : String)
  | invalidValue (name : String) (value : String)
  | invalidPeriod
  deriving DecidableEq, Repr

namespace ConfigError

def message : ConfigError → String
  | .io path => s!"failed to read config file {path}"
  | .parse => "failed to parse config"
  | .noQueries => "there are no queries to execute"
  | .unknownMode index mode => s!"query #{index}: unknown query type: {mode}"
  | .unsafeQuery index sql =>
    s!"query #{index}: only SELECT/SHOW queries are allowed (the char ; is forbidden): {sql}"
  | .emptyMarker name => s!"{name} must not be empty"
  | .markerOverlap marker =>
    let shown := Text.quoted marker
    s!"delta_suffix and delta_key_suffix must differ (both are {shown})"
  | .invalidValue name value => s!"invalid value for {name}: {value}"
  | .invalidPeriod => "period must be greater than zero"

end ConfigError

end RowMetrics
