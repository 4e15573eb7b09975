import TraceAutomata.Text.Numeral

/-!
# Dates and times

Days of the Gregorian calendar and times of day with an optional offset from universal time, as far as a
document can name them. Only dates that exist are built; the order and equality of two times with
offsets is that of the instants they name.
-/

namespace TraceAutomata

/-- A day of the calendar. -/
structure Date where
  year : Nat
  month : Nat
  day : Nat
  deriving DecidableEq, Repr

/-- A time of a day, with a fraction in microseconds and, if known, the seconds east of universal time. -/
structure DateTime where
  date : Date
  hour : Nat
  minute : Nat
  second : Nat
  microsecond : Nat
  offset : Option Int
  deriving DecidableEq, Repr

/-- Why numbers name no date or time. -/
inductive CalendarFault
  | year (year : Nat)
  | month
  | day
  | hour
  | minute
  | second
  | offset (seconds : Int)
  deriving DecidableEq, Repr

namespace Calendar

/-- Whether a year has a leap day. -/
def isLeap (year : Nat) : Bool :=
  year % 4 == 0 && (year % 100 != 0 || year % 400 == 0)

/-- The number of days of a month from one to twelve. -/
def daysInMonth (year month : Nat) : Nat :=
  if month == 2 then (if isLeap year then 29 else 28)
  else if month == 4 || month == 6 || month == 9 || month == 11 then 30
  else 31

/-- The number of days before a date, counted from the first day of the year one. -/
def dayNumber (date : Date) : Nat :=
  let earlierYears := date.year - 1
  let earlierMonths := (List.range (date.month - 1)).map fun index =>
    daysInMonth date.year (index + 1)
  earlierYears * 365 + earlierYears / 4 - earlierYears / 100 + earlierYears / 400
    + earlierMonths.foldr (· + ·) 0 + date.day

/-- A signed number of seconds as whole days and the seconds of a day that remain. -/
def daysAndSeconds (seconds : Int) : Int × Nat :=
  (Int.fdiv seconds 86400, (Int.fmod seconds 86400).toNat)

/-- A span of time, as it is shown inside a message. -/
def spanText (seconds : Int) : String :=
  let parts := daysAndSeconds seconds
  let days := if parts.1 == 0 then [] else ["days=" ++ Text.signedDecimal parts.1]
  let rest := if parts.2 == 0 then [] else ["seconds=" ++ Text.decimal parts.2]
  let fields := days ++ rest
  "datetime.timedelta(" ++ (if fields.isEmpty then "0" else ", ".intercalate fields) ++ ")"

end Calendar

/-- The wording of a fault. -/
def CalendarFault.message : CalendarFault → String
  | .year number => "year " ++ Text.decimal number ++ " is out of range"
  | .month => "month must be in 1..12"
  | .day => "day is out of range for month"
  | .hour => "hour must be in 0..23"
  | .minute => "minute must be in 0..59"
  | .second => "second must be in 0..59"
  | .offset seconds =>
    "offset must be a timedelta strictly between -timedelta(hours=24) and timedelta(hours=24), not "
      ++ Calendar.spanText seconds ++ "."

/-- The date that three numbers name. -/
def Date.ofNumbers (year month day : Nat) : Except CalendarFault Date :=
  if year == 0 || 9999 < year then .error (.year year)
  else if month == 0 || 12 < month then .error .month
  else if day == 0 || Calendar.daysInMonth year month < day then .error .day
  else .ok ⟨year, month, day⟩

/-- The time that numbers name. An offset of a whole day or more is refused before all else, then the
date is checked, then the time of day. -/
def DateTime.ofNumbers (year month day hour minute second microsecond : Nat)
    (offset : Option Int) : Except CalendarFault DateTime := do
  match offset with
  | some seconds =>
    if 86400 ≤ seconds.natAbs then throw (CalendarFault.offset seconds)
  | none => pure ()
  let date ← Date.ofNumbers year month day
  if 23 < hour then throw CalendarFault.hour
  if 59 < minute then throw CalendarFault.minute
  if 59 < second then throw CalendarFault.second
  return ⟨date, hour, minute, second, microsecond, offset⟩

/-- The plain text of a date: year, month and day with dashes. -/
def Date.text (date : Date) : String :=
  Text.paddedDecimal 4 date.year ++ "-" ++ Text.paddedDecimal 2 date.month ++ "-"
    ++ Text.paddedDecimal 2 date.day

/-- A date as it is shown inside a message. -/
def Date.shown (date : Date) : String :=
  "datetime.date(" ++ ", ".intercalate (List.map Text.decimal [date.year, date.month, date.day])
    ++ ")"

/-- An offset from universal time as a sign, hours and minutes. -/
def Calendar.offsetText (seconds : Int) : String :=
  let magnitude := seconds.natAbs
  (if seconds < 0 then "-" else "+") ++ Text.paddedDecimal 2 (magnitude / 3600) ++ ":"
    ++ Text.paddedDecimal 2 (magnitude / 60 % 60)

/-- The plain text of a time; a fraction is written when there is one, as is an offset. -/
def DateTime.text (time : DateTime) : String :=
  let fraction := if time.microsecond == 0 then "" else "." ++ Text.paddedDecimal 6 time.microsecond
  time.date.text ++ " " ++ Text.paddedDecimal 2 time.hour ++ ":" ++ Text.paddedDecimal 2 time.minute
    ++ ":" ++ Text.paddedDecimal 2 time.second ++ fraction
    ++ (time.offset.map Calendar.offsetText).getD ""

/-- A time as it is shown inside a message. The microseconds are left out when there are none, and then
so are the seconds when there are none. -/
def DateTime.shown (time : DateTime) : String :=
  let always := [time.date.year, time.date.month, time.date.day, time.hour, time.minute]
  let finer :=
    if time.microsecond != 0 then [time.second, time.microsecond]
    else if time.second != 0 then [time.second]
    else []
  let zone := match time.offset with
    | none => []
    | some 0 => ["tzinfo=datetime.timezone.utc"]
    | some seconds => ["tzinfo=datetime.timezone(" ++ Calendar.spanText seconds ++ ")"]
  "datetime.datetime(" ++ ", ".intercalate ((always ++ finer).map Text.decimal ++ zone) ++ ")"

/-- The microseconds from the first day of the year one to a time, taken at its offset. -/
def DateTime.instant (time : DateTime) : Int :=
  let seconds : Int := (Calendar.dayNumber time.date * 86400 + time.hour * 3600 + time.minute * 60
    + time.second : Nat)
  (seconds - time.offset.getD 0) * 1000000 + time.microsecond

/-- Whether two times are equal: both without offset and alike, or both with one and the same instant. -/
def DateTime.same (left right : DateTime) : Bool :=
  left.offset.isSome == right.offset.isSome && left.instant == right.instant

end TraceAutomata
