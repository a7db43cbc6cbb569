import UsageContracts.Text.Numeral

/-!
# Dates and times

Days of the calendar with four-digit years and moments of a day, with or
without a distance from universal time.  A date or a moment is built by a
function that checks its parts in a fixed order and names the first bad one.
-/

namespace UsageContracts

/-- A distance from universal time, as far as it can be written: whole minutes,
counted eastward. -/
abbrev OffsetMinutes := Int

/-- A day of the calendar. -/
structure Date where
  year : Nat
  month : Nat
  day : Nat
deriving DecidableEq

/-- A moment of a day.  Without an offset it belongs to no place in particular. -/
structure Moment where
  date : Date
  hour : Nat
  minute : Nat
  second : Nat
  microsecond : Nat
  offset : Option OffsetMinutes
deriving DecidableEq

/-- Why parts make up no date or no moment. -/
inductive CalendarFault
  | year
  | month
  | day
  | hour
  | minute
  | second
  | offset (minutes : OffsetMinutes)
deriving DecidableEq

/-! ## Spans of time -/

/-- The notation of a span of minutes as whole days and the seconds left over,
parts that are zero being left out. -/
def spanText (minutes : Int) : Text :=
  let days := minutes.fdiv (24 * 60)
  let seconds := minutes.fmod (24 * 60) * 60
  let dayPart : List Text := if days = 0 then [] else ["days=" ++ Text.signedDecimal days]
  let secondPart : List Text :=
    if seconds = 0 then [] else ["seconds=" ++ Text.signedDecimal seconds]
  let parts := dayPart ++ secondPart
  "datetime.timedelta(" ++ (if parts.isEmpty then ("0" : Text) else Text.join ", " parts) ++ ")"

namespace CalendarFault

/-- The wording of a fault. -/
def message : CalendarFault → Text
  | .year => "year 0 is out of range"
  | .month => "month must be in 1..12"
  | .day => "day is out of range for month"
  | .hour => "hour must be in 0..23"
  | .minute => "minute must be in 0..59"
  | .second => "second must be in 0..59"
  | .offset minutes =>
      "offset must be a timedelta strictly between -timedelta(hours=24) and " ++
        "timedelta(hours=24), not " ++ spanText minutes ++ "."

end CalendarFault

/-! ## Dates -/

namespace Date

/-- Whether a year has a leap day. -/
def isLeapYear (year : Nat) : Bool :=
  year % 4 == 0 && (year % 100 != 0 || year % 400 == 0)

/-- The number of days in a month. -/
def daysInMonth (year month : Nat) : Nat :=
  if month = 2 then
    if isLeapYear year then 29 else 28
  else if month = 4 ∨ month = 6 ∨ month = 9 ∨ month = 11 then
    30
  else
    31

/-- The date with the given parts, of which the year has at most four digits. -/
def ofParts (year month day : Nat) : Except CalendarFault Date :=
  if year = 0 then .error .year
  else if month = 0 ∨ 12 < month then .error .month
  else if day = 0 ∨ daysInMonth year month < day then .error .day
  else .ok ⟨year, month, day⟩

/-- The number of days from the beginning of the calendar to a date. -/
def dayNumber (date : Date) : Nat :=
  let past := date.year - 1
  let earlierMonths := (List.range (date.month - 1)).map fun month =>
    daysInMonth date.year (month + 1)
  365 * past + past / 4 - past / 100 + past / 400 + earlierMonths.foldl (· + ·) 0 + date.day

/-- A date in the notation year, month, day. -/
def display (date : Date) : Text :=
  Text.paddedDecimal 4 date.year ++ "-" ++ Text.paddedDecimal 2 date.month ++ "-" ++
    Text.paddedDecimal 2 date.day

/-- The parts of a date, separated by commas. -/
def partsText (date : Date) : Text :=
  Text.join ", " ([date.year, date.month, date.day].map Text.decimal)

/-- The unambiguous notation of a date inside a collection. -/
def quoted (date : Date) : Text :=
  "datetime.date(" ++ date.partsText ++ ")"

end Date

/-! ## Moments -/

namespace Moment

/-- The moment with the given parts.  The offset is checked first, and has to
be shorter than a day. -/
def ofParts (year month day hour minute second microsecond : Nat)
    (offset : Option OffsetMinutes) : Except CalendarFault Moment := do
  if let some minutes := offset then
    if 24 * 60 ≤ minutes.natAbs then
      throw (.offset minutes)
  let date ← Date.ofParts year month day
  if 23 < hour then throw .hour
  if 59 < minute then throw .minute
  if 59 < second then throw .second
  return { date, hour, minute, second, microsecond, offset }

/-- The minute of a moment, counted from the beginning of the calendar in
universal time, or in local time if the moment has no offset. -/
def minuteNumber (moment : Moment) : Int :=
  ((moment.date.dayNumber * 24 + moment.hour) * 60 + moment.minute : Nat) -
    moment.offset.getD 0

/-- Whether two moments are the same point in time.  A moment with an offset is
never the same as one without. -/
def isSame (left right : Moment) : Bool :=
  left.offset.isSome == right.offset.isSome && left.minuteNumber == right.minuteNumber &&
    left.second == right.second && left.microsecond == right.microsecond

/-- A distance from universal time in hours and minutes. -/
def offsetText (minutes : OffsetMinutes) : Text :=
  let sign : Text := if minutes < 0 then "-" else "+"
  sign ++ Text.paddedDecimal 2 (minutes.natAbs / 60) ++ ":" ++
    Text.paddedDecimal 2 (minutes.natAbs % 60)

/-- A moment in the notation date, time of day and offset.  The fraction of a
second is left out if it is zero. -/
def display (moment : Moment) : Text :=
  let time := Text.join ":"
    ([moment.hour, moment.minute, moment.second].map (Text.paddedDecimal 2))
  let fraction : Text :=
    if moment.microsecond = 0 then [] else "." ++ Text.paddedDecimal 6 moment.microsecond
  moment.date.display ++ " " ++ time ++ fraction ++ (moment.offset.map offsetText).getD []

/-- The unambiguous notation of a moment inside a collection.  Seconds are left
out if they and the fraction are zero, and the fraction if it is zero. -/
def quoted (moment : Moment) : Text :=
  let fine :=
    if moment.microsecond ≠ 0 then [moment.second, moment.microsecond]
    else if moment.second ≠ 0 then [moment.second]
    else []
  let time := ([moment.hour, moment.minute] ++ fine).map Text.decimal
  let zone : List Text :=
    match moment.offset with
    | none => []
    | some minutes =>
        if minutes = 0 then ["tzinfo=datetime.timezone.utc"]
        else ["tzinfo=datetime.timezone(" ++ spanText minutes ++ ")"]
  "datetime.datetime(" ++ Text.join ", " (moment.date.partsText :: time ++ zone) ++ ")"

end Moment

end UsageContracts
