import RowMetrics.Config.Basic
import RowMetrics.Config.Error

/-!
Settings from the environment, applied on top of the configuration file: the host name, the
port, the user name, the password and the period, in that order. A number must be an unsigned
decimal in the range of its setting, with at most a leading `+`; the first that is not gives
`ConfigError.invalidValue`.
-/

namespace RowMetrics

namespace Config

/-- Reads an unsigned decimal below `bound`: an optional `+`, then at least one digit and
nothing else. -/
def readUnsigned (bound : Nat) (s : String) : Option Nat :=
  let digits := match s.toList with
    | '+' :: r => r
    | cs => cs
  if digits.isEmpty || !digits.all Char.isDigit then none
  else
    let v := digits.foldl (fun acc c => acc * 10 + (c.toNat - '0'.toNat)) 0
    if v < bound then some v else none

def hostnameVar : String := "SQLBEAT_HOSTNAME"

def portVar : String := "SQLBEAT_PORT"

def usernameVar : String := "SQLBEAT_USERNAME"

def passwordVar : String := "SQLBEAT_PASSWORD"

/-- The variable that overrides the polling period, in milliseconds. -/
def periodVar : String := "SQLBEAT_PERIOD_MS"

/-- Applies the environment, read through `lookup`, on top of the configuration. -/
def applyEnv (lookup : String → Option String) (c : Config) : Except ConfigError Config := do
  let c := match lookup hostnameVar with
    | some h => { c with database := { c.database with hostname := h } }
    | none => c
  let c ← match lookup portVar with
    | some p => match readUnsigned portBound p with
      | some n => pure { c with database := { c.database with port := UInt16.ofNat n } }
      | none => throw (.invalidValue portVar p)
    | none => pure c
  let c := match lookup usernameVar with
    | some u => { c with database := { c.database with username := some u } }
    | none => c
  let c := match lookup passwordVar with
    | some p => { c with database := { c.database with password := some p } }
    | none => c
  match lookup periodVar with
  | some p => match readUnsigned millisBound p with
    | some n => pure { c with periodMillis := UInt64.ofNat n }
    | none => throw (.invalidValue periodVar p)
  | none => pure c

end Config

end RowMetrics
