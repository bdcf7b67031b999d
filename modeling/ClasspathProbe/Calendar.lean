import ClasspathProbe.Text

/-!
# Dates and moments

The days of the calendar, the moments within them with or without an offset from universal time,
and their text forms: the standard one and the one that names each part's constructor.
-/

namespace ClasspathProbe

/-- A day. -/
structure Date where
  year : Nat
  month : Nat
  day : Nat
deriving DecidableEq, Repr

/-- A moment of a day; the offset from universal time is in seconds. -/
structure Moment where
  date : Date
  hour : Nat
  minute : Nat
  second : Nat
  micro : Nat
  offset : Option Int
deriving DecidableEq, Repr

/-- Why numbers make no date or moment. -/
inductive CalendarFault where
  | year (n : Nat)
  | month
  | day
  | hour
  | minute
  | second
  | offset (seconds : Int)
deriving DecidableEq, Repr

def isLeap (year : Nat) : Bool := year % 4 = 0 && (year % 100 != 0 || year % 400 = 0)

def daysIn (year month : Nat) : Nat :=
  if month = 2 then (if isLeap year then 29 else 28)
  else if month = 4 || month = 6 || month = 9 || month = 11 then 30
  else 31

namespace Date

/-- The day of three numbers; the first number out of range is the fault. -/
def of (year month day : Nat) : Except CalendarFault Date :=
  if year = 0 || 9999 < year then .error (.year year)
  else if month = 0 || 12 < month then .error .month
  else if day = 0 || daysIn year month < day then .error .day
  else .ok ⟨year, month, day⟩

/-- The standard form, such as `2024-02-29`. -/
def iso (d : Date) : Text :=
  Text.padStart '0' 4 (Text.ofNat d.year) ++ '-' :: Text.padStart '0' 2 (Text.ofNat d.month) ++
    '-' :: Text.padStart '0' 2 (Text.ofNat d.day)

/-- The form that names the parts. -/
def shown (d : Date) : Text :=
  "datetime.date(" ++ Text.joined ", " [Text.ofNat d.year, Text.ofNat d.month, Text.ofNat d.day] ++
    ")"

/-- The number of days from the first day of year one. -/
def ordinal (d : Date) : Nat :=
  let y := d.year - 1
  let months := (List.range (d.month - 1)).map fun m => daysIn d.year (m + 1)
  y * 365 + y / 4 - y / 100 + y / 400 + months.foldl (· + ·) 0 + (d.day - 1)

end Date

/-- A span of time, as days and seconds of a day. -/
def shownSpan (seconds : Int) : Text :=
  let days := Int.fdiv seconds 86400
  let rest := Int.fmod seconds 86400
  let parts : List Text :=
    (if days = 0 then [] else ["days=" ++ Text.ofInt days]) ++
      (if rest = 0 then [] else ["seconds=" ++ Text.ofInt rest])
  let inside : Text := if parts.isEmpty then "0" else Text.joined ", " parts
  "datetime.timedelta(" ++ inside ++ ")"

def CalendarFault.message : CalendarFault → Text
  | .year n => "year " ++ Text.ofNat n ++ " is out of range"
  | .month => "month must be in 1..12"
  | .day => "day is out of range for month"
  | .hour => "hour must be in 0..23"
  | .minute => "minute must be in 0..59"
  | .second => "second must be in 0..59"
  | .offset seconds =>
    "offset must be a timedelta strictly between -timedelta(hours=24) and timedelta(hours=24), not "
      ++ shownSpan seconds ++ "."

namespace Moment

/-- The moment of a day at a time of day; the first number out of range is the fault. -/
def of (year month day hour minute second micro : Nat) (offset : Option Int) :
    Except CalendarFault Moment := do
  if let some seconds := offset then
    if 86400 ≤ seconds.natAbs then throw (.offset seconds)
  let date ← Date.of year month day
  if 23 < hour then throw .hour
  if 59 < minute then throw .minute
  if 59 < second then throw .second
  return ⟨date, hour, minute, second, micro, offset⟩

def two (n : Nat) : Text := Text.padStart '0' 2 (Text.ofNat n)

/-- An offset such as `+05:30`, with seconds when it has any. -/
def isoOffset (seconds : Int) : Text :=
  let n := seconds.natAbs
  (if seconds < 0 then '-' else '+') :: two (n / 3600) ++ ':' :: two (n / 60 % 60) ++
    (if n % 60 = 0 then [] else ':' :: two (n % 60))

/-- The standard form, `between` standing between day and time. -/
def iso (between : Char) (m : Moment) : Text :=
  m.date.iso ++ between :: two m.hour ++ ':' :: two m.minute ++ ':' :: two m.second ++
    (if m.micro = 0 then [] else '.' :: Text.padStart '0' 6 (Text.ofNat m.micro)) ++
    m.offset.elim [] isoOffset

/-- The form that names the parts; seconds and fractions are left out when they are zero. -/
def shown (m : Moment) : Text :=
  let whole := [m.date.year, m.date.month, m.date.day, m.hour, m.minute]
  let rest :=
    if m.micro != 0 then [m.second, m.micro] else if m.second != 0 then [m.second] else []
  let zone : List Text :=
    match m.offset with
    | none => []
    | some seconds =>
      if seconds = 0 then ["tzinfo=datetime.timezone.utc"]
      else ["tzinfo=datetime.timezone(" ++ shownSpan seconds ++ ")"]
  "datetime.datetime(" ++ Text.joined ", " ((whole ++ rest).map Text.ofNat ++ zone) ++ ")"

/-- The microseconds from the first day of year one, in universal time when the offset is known. -/
def instant (m : Moment) : Int :=
  let seconds : Int := m.date.ordinal * 86400 + m.hour * 3600 + m.minute * 60 + m.second
  (seconds - m.offset.getD 0) * 1000000 + m.micro

/-- Whether two moments are the same: with offsets, as instants; without, as written. -/
def same (a b : Moment) : Bool := a.offset.isSome = b.offset.isSome && a.instant = b.instant

end Moment

end ClasspathProbe
