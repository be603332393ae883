import Flowline.Text.Quoted

/-!
Days of the proleptic Gregorian calendar from year 1 to year 9999, times of day and offsets, with their
texts.
-/

namespace Flowline.Calendar

def isLeapYear (year : Nat) : Bool := year % 4 = 0 && (year % 100 ≠ 0 || year % 400 = 0)

def daysInMonth (year month : Nat) : Nat :=
  if month = 2 then (if isLeapYear year then 29 else 28)
  else if [4, 6, 9, 11].contains month then 30
  else 31

/-- Why numbers are not a date or a time of day. -/
inductive RangeError where
  | year (given : Int)
  | month
  | day
  | hour
  | minute
  | second
  | offset (shown : String)
  deriving DecidableEq, Repr

def RangeError.message : RangeError → String
  | year given => s!"year {given} is out of range"
  | month => "month must be in 1..12"
  | day => "day is out of range for month"
  | hour => "hour must be in 0..23"
  | minute => "minute must be in 0..59"
  | second => "second must be in 0..59"
  | offset shown =>
      "offset must be a timedelta strictly between -timedelta(hours=24) and timedelta(hours=24), not " ++
        shown ++ "."

structure Date where
  year : Nat
  month : Nat
  day : Nat
  deriving DecidableEq, Repr

def Date.of? (year month day : Nat) : Except RangeError Date :=
  if year < 1 || 9999 < year then .error (.year year)
  else if month < 1 || 12 < month then .error .month
  else if day < 1 || daysInMonth year month < day then .error .day
  else .ok ⟨year, month, day⟩

/-- A number in decimal with zeros before it up to a width. -/
def padded (width n : Nat) : String :=
  let digits := Nat.toDigits 10 n
  String.ofList (List.replicate (width - digits.length) '0' ++ digits)

/-- Year, month and day with hyphens between. -/
def Date.text (d : Date) : String :=
  padded 4 d.year ++ "-" ++ padded 2 d.month ++ "-" ++ padded 2 d.day

/-- A date with a time of day and, if known, the offset of its clock in minutes. -/
structure Moment where
  date : Date
  hour : Nat
  minute : Nat
  second : Nat
  microsecond : Nat
  offset : Option Int
  deriving DecidableEq, Repr

/-- The text of an offset of minutes with its sign, as hours and minutes. -/
def offsetText (minutes : Int) : String :=
  (if minutes < 0 then "-" else "+") ++ padded 2 (minutes.natAbs / 60) ++ ":" ++
    padded 2 (minutes.natAbs % 60)

/-- Date and time with a mark between them; microseconds only if there are any. -/
def Moment.text (m : Moment) (mark : String) : String :=
  m.date.text ++ mark ++ padded 2 m.hour ++ ":" ++ padded 2 m.minute ++ ":" ++ padded 2 m.second ++
    (if m.microsecond = 0 then "" else "." ++ padded 6 m.microsecond) ++
    (match m.offset with
      | some minutes => offsetText minutes
      | none => "")

/-- The length of an offset as messages show it: whole days, rounded down, and the seconds left. -/
def offsetLength (minutes : Int) : String :=
  let days := Int.fdiv minutes 1440
  let seconds := (Int.fmod minutes 1440) * 60
  let parts := (if days = 0 then [] else [s!"days={days}"]) ++
    (if seconds = 0 then [] else [s!"seconds={seconds}"])
  "datetime.timedelta(" ++ (if parts.isEmpty then "0" else ", ".intercalate parts) ++ ")"

def offsetZone (minutes : Int) : String :=
  if minutes = 0 then "datetime.timezone.utc"
  else "datetime.timezone(" ++ offsetLength minutes ++ ")"

def Moment.of? (date : Date) (hour minute second microsecond : Nat) (offset : Option Int) :
    Except RangeError Moment :=
  if 23 < hour then .error .hour
  else if 59 < minute then .error .minute
  else if 59 < second then .error .second
  else .ok ⟨date, hour, minute, second, microsecond, offset⟩

/-- Year, month and day of the day that lies a number of days after 1970-01-01. Years are counted on
beyond those of dates. -/
def civilDay (days : Int) : Int × Nat × Nat :=
  let shifted := days + 719468
  let era := Int.fdiv shifted 146097
  let dayOfEra := (shifted - era * 146097).toNat
  let yearOfEra := (dayOfEra - dayOfEra / 1460 + dayOfEra / 36524 - dayOfEra / 146096) / 365
  let dayOfYear := dayOfEra - (365 * yearOfEra + yearOfEra / 4 - yearOfEra / 100)
  let shiftedMonth := (5 * dayOfYear + 2) / 153
  let day := dayOfYear - (153 * shiftedMonth + 2) / 5 + 1
  let month := if shiftedMonth < 10 then shiftedMonth + 3 else shiftedMonth - 9
  ((yearOfEra : Int) + era * 400 + (if month ≤ 2 then 1 else 0), month, day)

/-- The day that lies a number of days after 1970-01-01. -/
def Date.ofDaysSinceEpoch (days : Int) : Date :=
  let (year, month, day) := civilDay days
  ⟨year.toNat, month, day⟩

/-- The UTC moment that lies a number of seconds and microseconds after the start of 1970. -/
def Moment.ofEpoch (seconds : Int) (microsecond : Nat) : Moment :=
  let days := Int.fdiv seconds 86400
  let ofDay := (Int.fmod seconds 86400).toNat
  ⟨Date.ofDaysSinceEpoch days, ofDay / 3600, ofDay / 60 % 60, ofDay % 60, microsecond, some 0⟩

/-- The same moment, if its year is one of those of dates. -/
def Moment.ofEpoch? (seconds : Int) (microsecond : Nat) : Except RangeError Moment :=
  let year := (civilDay (Int.fdiv seconds 86400)).1
  if year < 1 || 9999 < year then .error (.year year) else .ok (.ofEpoch seconds microsecond)

end Flowline.Calendar
