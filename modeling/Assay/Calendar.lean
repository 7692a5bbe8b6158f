import Assay.Failure

/-!
# Days and times

* `Day`, `Moment`: a day of the calendar, and a time with or without an offset from universal time;
* `Day.check`, `Moment.check`: whether a calendar and a clock have it; the first part out of range
  is the one reported;
* `written`, `shown`: as plain text and inside messages;
* `yearOfDay`, `Day.ofNumber`, `Moment.ofMillis`: days and times counted from the start of 1970.
-/

namespace Assay

/-- A day of the calendar. -/
structure Day where
  year : Nat
  month : Nat
  day : Nat
  deriving DecidableEq, Repr

/-- A day and a time; the offset is in minutes. -/
structure Moment where
  day : Day
  hour : Nat
  minute : Nat
  second : Nat
  micro : Nat
  offset : Option Int
  deriving DecidableEq, Repr

/-- A number with leading zeros. -/
def padded (width n : Nat) : String :=
  let digits := (toString n).toList
  String.ofList (List.replicate (width - digits.length) '0' ++ digits)

/-- Numbers between commas. -/
def listed (ns : List Nat) : String :=
  ", ".intercalate (ns.map toString)

namespace Day

def isLeap (year : Nat) : Bool :=
  year % 4 == 0 && (year % 100 != 0 || year % 400 == 0)

/-- The number of days of a month. -/
def monthLength (year month : Nat) : Nat :=
  if month = 2 then (if isLeap year then 29 else 28)
  else if month = 4 ∨ month = 6 ∨ month = 9 ∨ month = 11 then 30
  else 31

/-- Whether there is such a day. -/
def check (d : Day) : Except Failure Unit :=
  if d.year = 0 then .error (.calendar (.year 0))
  else if d.month = 0 ∨ 12 < d.month then .error (.calendar .month)
  else if d.day = 0 ∨ monthLength d.year d.month < d.day then .error (.calendar .day)
  else .ok ()

def written (d : Day) : String :=
  padded 4 d.year ++ "-" ++ padded 2 d.month ++ "-" ++ padded 2 d.day

def shown (d : Day) : String :=
  "datetime.date(" ++ listed [d.year, d.month, d.day] ++ ")"

end Day

namespace Moment

/-- The minutes of a day. -/
def dayMinutes : Int := 1440

/-- A number of minutes as whole days and the seconds after them. -/
def shownSpan (minutes : Int) : String :=
  let days := minutes.fdiv dayMinutes
  let seconds := minutes.fmod dayMinutes * 60
  let parts := (if days = 0 then [] else [s!"days={days}"]) ++
    (if seconds = 0 then [] else [s!"seconds={seconds}"])
  "datetime.timedelta(" ++ (if parts.isEmpty then "0" else ", ".intercalate parts) ++ ")"

/-- Whether an offset is less than a day. -/
def checkOffset (minutes : Int) : Except Failure Unit :=
  if -dayMinutes < minutes ∧ minutes < dayMinutes then .ok ()
  else .error (.calendar (.offset (shownSpan minutes)))

/-- Whether there is such a time. -/
def check (m : Moment) : Except Failure Unit := do
  checkOffset (m.offset.getD 0)
  m.day.check
  if 23 < m.hour then throw (.calendar .hour)
  if 59 < m.minute then throw (.calendar .minute)
  if 59 < m.second then throw (.calendar .second)

/-- An offset as hours and minutes. -/
def writtenOffset (minutes : Int) : String :=
  (if minutes < 0 then "-" else "+") ++ padded 2 (minutes.natAbs / 60) ++ ":" ++
    padded 2 (minutes.natAbs % 60)

/-- A time with something between the day and the rest. -/
def joined (between : String) (m : Moment) : String :=
  m.day.written ++ between ++ padded 2 m.hour ++ ":" ++ padded 2 m.minute ++ ":" ++
    padded 2 m.second ++ (if m.micro = 0 then "" else "." ++ padded 6 m.micro) ++
    (m.offset.map writtenOffset).getD ""

def written (m : Moment) : String :=
  m.joined " "

def shownOffset (minutes : Int) : String :=
  if minutes = 0 then "datetime.timezone.utc"
  else "datetime.timezone(" ++ shownSpan minutes ++ ")"

/-- The parts of a time; the last two are left out where they and all after them are zero. -/
def clockParts (m : Moment) : List Nat :=
  if m.micro = 0 then
    if m.second = 0 then [m.hour, m.minute] else [m.hour, m.minute, m.second]
  else [m.hour, m.minute, m.second, m.micro]

def shown (m : Moment) : String :=
  "datetime.datetime(" ++ listed ([m.day.year, m.day.month, m.day.day] ++ m.clockParts) ++
    ((m.offset.map fun o => ", tzinfo=" ++ shownOffset o).getD "") ++ ")"

end Moment

/-! Years are counted from March on, so that the leap day is the last of its year, and in eras of
four hundred years, which all have the same number of days. -/

/-- The days of an era. -/
def eraDays : Int := 146097

/-- The days from the first of March of the year 0 to the start of 1970. -/
def epochDay : Int := 719468

/-- The year of an era in which one of its days lies. -/
def yearOfEra (day : Int) : Int :=
  (day - day / 1460 + day / 36524 - day / 146096) / 365

/-- The day of its year, from March on, that a day of an era is. -/
def dayOfYear (day : Int) : Int :=
  let y := yearOfEra day
  day - (365 * y + y / 4 - y / 100)

/-- The year in which a day lies; days count from the start of 1970. -/
def yearOfDay (n : Int) : Int :=
  let day := (n + epochDay) % eraDays
  (n + epochDay) / eraDays * 400 + yearOfEra day + (if 306 ≤ dayOfYear day then 1 else 0)

/-- The day with a number; days count from the start of 1970. -/
def Day.ofNumber (n : Nat) : Day :=
  let doy := (dayOfYear ((n + epochDay) % eraDays)).toNat
  let month := (5 * doy + 2) / 153
  { year := (yearOfDay n).toNat
    month := if month < 10 then month + 3 else month - 9
    day := doy - (153 * month + 2) / 5 + 1 }

/-- The number of a day; days count from the start of 1970. -/
def Day.number (d : Day) : Int :=
  let year : Int := if d.month < 3 then d.year - 1 else d.year
  let month : Int := if d.month < 3 then d.month + 9 else d.month - 3
  365 * year + year / 4 - year / 100 + year / 400 + (153 * month + 2) / 5 + d.day - 1 - epochDay

/-- The millionths of a second from the start of 1970 to a time without its offset. -/
def Moment.localMicros (m : Moment) : Int :=
  (((m.day.number * 24 + m.hour) * 60 + m.minute) * 60 + m.second) * 1000000 + m.micro

/-- Whether two times are the same. Times with offsets are compared as instants, and a time without
one is the same as none that has one. -/
def Moment.isSame (m n : Moment) : Bool :=
  match m.offset, n.offset with
  | none, none => m == n
  | some a, some b => m.localMicros - a * 60000000 == n.localMicros - b * 60000000
  | _, _ => false

/-- The time that is some milliseconds after the start of 1970, as universal time. -/
def Moment.ofMillis (ms : Nat) : Moment :=
  let second := ms / 1000
  { day := .ofNumber (second / 86400)
    hour := second / 3600 % 24
    minute := second / 60 % 60
    second := second % 60
    micro := ms % 1000 * 1000
    offset := some 0 }

end Assay
