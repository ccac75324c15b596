import RowMetrics.Rate.Store
import RowMetrics.Binary64.Integral

/-!
Rates between two observations of a series. The new observation always replaces the old one in
the store; what comes out is decided in this order: nothing for a first sighting; the text
itself when the new value is text; nothing when the old value was text; nothing when no time
has passed (the distance in seconds is at most zero); otherwise the increase per second, or zero
when the value did not grow.

The increase per second is a binary64 quotient. Between two integers it is the exact difference
rounded once, divided by the elapsed seconds and rounded half up to an integer; when only the
old value is a float the two are compared and subtracted as binary64 numbers and the quotient is
again rounded half up; and when the new value is a float the quotient stays a float. A NaN
never counts as growth.
-/

namespace RowMetrics

namespace Observation

/-- The rate from `prior` to `current`, or none. -/
def rateSince (prior current : Observation) : Option Value :=
  match current.value with
  | .text s => some (.text s)
  | newValue =>
    if prior.value.kind = .text then none
    else
      let elapsed := current.time.secondsSince prior.time
      if elapsed.le (Binary64.zero false) then none
      else
        match prior.value, newValue with
        | .integer old, .integer new =>
          if old.toInt < new.toInt then
            let increase := Binary64.ofInt (new.toInt - old.toInt)
            some (.integer (Binary64.div increase elapsed).roundHalfUp)
          else some (.integer 0)
        | old, .integer new =>
          match old.toBinary64? with
          | none => none
          | some o =>
            let n := Binary64.ofInt new.toInt
            if o.lt n then some (.integer (Binary64.div (Binary64.sub n o) elapsed).roundHalfUp)
            else some (.integer 0)
        | old, .float new =>
          match old.toBinary64? with
          | none => none
          | some o =>
            if o.lt new then some (.float (Binary64.div (Binary64.sub new o) elapsed))
            else some (.float (Binary64.zero false))
        | _, .text _ => none

end Observation

namespace RateStore

/-- Records `value` for `key` at `time`, and gives the rate since the previous observation of
the key, if there is one. -/
def observe (s : RateStore) (key : String) (value : Value) (time : Timestamp) :
    RateStore × Option Value :=
  let current : Observation := ⟨value, time⟩
  let rate := (s.get? key).bind fun prior => prior.rateSince current
  (s.set key current, rate)

@[simp] theorem observe_fst (s : RateStore) (key : String) (value : Value) (time : Timestamp) :
    (s.observe key value time).1 = s.set key ⟨value, time⟩ := rfl

@[simp] theorem observe_snd (s : RateStore) (key : String) (value : Value) (time : Timestamp) :
    (s.observe key value time).2 = (s.get? key).bind (·.rateSince ⟨value, time⟩) := rfl

/-- After an observation the store holds it for its key, whatever the rate was. -/
theorem observe_get? (s : RateStore) (key : String) (value : Value) (time : Timestamp) :
    (s.observe key value time).1.get? key = some ⟨value, time⟩ := by
  simp

end RateStore

end RowMetrics
