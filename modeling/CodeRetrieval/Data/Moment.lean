/-!
# Dates and times

Days of the calendar, times of day and moments with an optional distance from universal
time, as they occur in configuration files, and their written forms.
-/

namespace CodeRetrieval

/-- A day of the calendar. -/
structure CalendarDay where
  year : Nat
  month : Nat
  day : Nat
deriving DecidableEq, Repr

/-- A time of day. -/
structure ClockTime where
  hour : Nat
  minute : Nat
  second : Nat
  microsecond : Nat
deriving DecidableEq, Repr

/-- A date, a time, or both; both may come with a distance from universal time in
minutes. -/
inductive Moment where
  | day (d : CalendarDay)
  | time (t : ClockTime)
  | dayTime (d : CalendarDay) (t : ClockTime) (offset : Option Int)
deriving DecidableEq, Repr

/-- The decimal digits of `n`, at least `width` of them. -/
def paddedNat (width n : Nat) : String :=
  let ds := Nat.toDigits 10 n
  String.ofList (List.replicate (width - ds.length) '0' ++ ds)

namespace CalendarDay

/-- The year has a 29th of February. -/
def isLeap (year : Nat) : Bool :=
  year % 4 == 0 && (year % 100 != 0 || year % 400 == 0)

def daysIn (year month : Nat) : Nat :=
  if month == 2 then (if isLeap year then 29 else 28)
  else if month == 4 || month == 6 || month == 9 || month == 11 then 30
  else 31

def isValid (d : CalendarDay) : Bool :=
  decide (1 ≤ d.year) && decide (1 ≤ d.month) && decide (d.month ≤ 12) && decide (1 ≤ d.day)
    && decide (d.day ≤ daysIn d.year d.month)

/-- Year, month and day with hyphens between them. -/
def text (d : CalendarDay) : String :=
  paddedNat 4 d.year ++ "-" ++ paddedNat 2 d.month ++ "-" ++ paddedNat 2 d.day

end CalendarDay

namespace ClockTime

/-- Hour, minute and second with colons between them, and microseconds unless there are
none. -/
def text (t : ClockTime) : String :=
  paddedNat 2 t.hour ++ ":" ++ paddedNat 2 t.minute ++ ":" ++ paddedNat 2 t.second
    ++ (if t.microsecond == 0 then "" else "." ++ paddedNat 6 t.microsecond)

/-- The parts of the time as a list, seconds and microseconds left out when nothing
follows them but zeros. -/
def parts (t : ClockTime) : List Nat :=
  [t.hour, t.minute]
    ++ (if t.second == 0 && t.microsecond == 0 then [] else [t.second])
    ++ (if t.microsecond == 0 then [] else [t.microsecond])

end ClockTime

namespace Moment

/-- A distance from universal time as hours and minutes with a sign. -/
def offsetText (minutes : Int) : String :=
  (if minutes < 0 then "-" else "+") ++ paddedNat 2 (minutes.natAbs / 60) ++ ":" ++
    paddedNat 2 (minutes.natAbs % 60)

def text : Moment → String
  | day d => d.text
  | time t => t.text
  | dayTime d t offset => d.text ++ " " ++ t.text ++ offset.elim "" offsetText

/-- A distance from universal time as it is described inside a list: whole days, rounded
down, and seconds. -/
def offsetDescription (minutes : Int) : String :=
  if minutes = 0 then "datetime.timezone.utc"
  else
    let days := Int.fdiv minutes 1440
    let seconds := (minutes - days * 1440) * 60
    let parts :=
      (if days = 0 then [] else [s!"days={days}"]) ++ (if seconds = 0 then []
        else [s!"seconds={seconds}"])
    "datetime.timezone(datetime.timedelta(" ++ ", ".intercalate parts ++ "))"

/-- The form of a moment inside a list or table. -/
def description : Moment → String
  | day d => s!"datetime.date({d.year}, {d.month}, {d.day})"
  | time t => "datetime.time(" ++ ", ".intercalate (t.parts.map toString) ++ ")"
  | dayTime d t offset =>
    let parts := ([d.year, d.month, d.day] ++ t.parts).map toString
    let zone := offset.elim [] fun o => ["tzinfo=" ++ offsetDescription o]
    "datetime.datetime(" ++ ", ".intercalate (parts ++ zone) ++ ")"

end Moment

end CodeRetrieval
