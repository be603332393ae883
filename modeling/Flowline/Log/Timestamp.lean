import Flowline.Failure
import Flowline.Value.Basic

/-!
Timestamps: seconds since the start of 1970, given as a number of any kind, with their text in UTC.
-/

namespace Flowline.Log.Timestamp

def outOfRange : Failure := .general .overflow "timestamp out of range for platform time_t"

/-- The seconds of a clock are a 64 bit integer. -/
def isClockTime (seconds : Int) : Bool :=
  -(Number.twoTo 63 : Int) ≤ seconds && seconds < Number.twoTo 63

def microsecondsPerSecond : Nat := 1000000

/-- The nearest integer to a real number; of two such integers the even one. -/
def nearest (x : Binary64) : Int :=
  let magnitude : Int := Number.roundHalfEven x.units Binary64.unitsPerOne
  if x.isNegative then -magnitude else magnitude

/-- Seconds with microseconds, which count forward also before 1970. -/
def carried (seconds microseconds : Int) : Int × Nat :=
  if (microsecondsPerSecond : Int) ≤ microseconds then
    (seconds + 1, (microseconds - microsecondsPerSecond).toNat)
  else if microseconds < 0 then (seconds - 1, (microseconds + microsecondsPerSecond).toNat)
  else (seconds, microseconds.toNat)

/-- The seconds and microseconds of a real number; the part after the point is rounded. -/
def ofReal (x : Binary64) : Except Failure (Int × Nat) :=
  if x.isNaN then .error (.general .value "Invalid value NaN (not a number)")
  else match x.truncate? with
    | none => .error outOfRange
    | some whole =>
        let (seconds, microsecond) :=
          carried whole (nearest (x.fraction * .ofInt microsecondsPerSecond))
        if isClockTime seconds then .ok (seconds, microsecond) else .error outOfRange

/-- The seconds and microseconds that a value gives. -/
def ofValue (v : Value) : Except Failure (Int × Nat) :=
  match v with
  | .real x => ofReal x
  | _ => match v.asInt? with
    | some n => if isClockTime n then .ok (n, 0) else .error outOfRange
    | none => .error (.general .type
        s!"'{v.fullKindName}' object cannot be interpreted as an integer")

/-- Whether a clock can show a year. -/
def isClockYear (year : Int) : Bool :=
  -(Number.twoTo 31 : Int) + 1900 ≤ year && year < Number.twoTo 31 + 1900

/-- A year beyond those of dates is shown as 32 bits hold it. -/
def shown : Calendar.RangeError → Calendar.RangeError
  | .year given => .year (Int.bmod given (Number.twoTo 32))
  | e => e

/-- The text of the moment that a value gives. -/
def text (v : Value) : Except Failure String := do
  let (seconds, microsecond) ← ofValue v
  if !isClockYear (Calendar.civilDay (Int.fdiv seconds 86400)).1 then
    .error (.general .os "[Errno 75] Value too large for defined data type")
  else match Calendar.Moment.ofEpoch? seconds microsecond with
    | .ok moment => .ok (moment.text "T")
    | .error e => .error (.general .value (shown e).message)

end Flowline.Log.Timestamp
