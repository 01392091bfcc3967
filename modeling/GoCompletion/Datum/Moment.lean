import GoCompletion.Text.Basic

/-!
# Points in time

A day, or a day with a time of day, which may be told with its distance to universal time. Points in time
that are told so are the same when they are the same instant (`Moment.isSame`); others are the same when
they are told alike. By itself a point in time is shown in figures (`Moment.shown`), inside other data with
the names of its parts (`Moment.quoted`).
-/

namespace GoCompletion

/-- A time of day. -/
structure Clock where
  /-- the hour -/
  hour : Nat
  /-- the minute -/
  minute : Nat
  /-- the second -/
  second : Nat
  /-- the millionths of a second -/
  micro : Nat
  /-- the distance to universal time in minutes, where it is told -/
  zone : Option Int
  deriving DecidableEq, Repr

/-- A point in time. -/
structure Moment where
  /-- the year -/
  year : Nat
  /-- the month, counted from one -/
  month : Nat
  /-- the day of the month, counted from one -/
  day : Nat
  /-- the time of day, absent for a whole day -/
  clock : Option Clock
  deriving DecidableEq, Repr

/-! ## The calendar -/

/-- The year has a day more. -/
def isLeapYear (year : Nat) : Bool :=
  year % 4 = 0 && (year % 100 ≠ 0 || year % 400 = 0)

/-- The number of days of a month. -/
def monthLength (year month : Nat) : Nat :=
  if month = 2 then if isLeapYear year then 29 else 28
  else if [4, 6, 9, 11].contains month then 30 else 31

/-- The number of days in front of a day, from the start of year one. -/
def daysBefore (year month day : Nat) : Nat :=
  let y := year - 1
  let months := (List.range (month - 1)).map fun m => monthLength year (m + 1)
  365 * y + y / 4 - y / 100 + y / 400 + Text.total id months + (day - 1)

namespace Moment

/-- The millionths of a second from the start of year one, in universal time where a distance is told. -/
def instant (m : Moment) (c : Clock) : Int :=
  let minutes : Int := ((daysBefore m.year m.month m.day * 24 + c.hour) * 60 + c.minute : Nat)
  ((minutes - c.zone.getD 0) * 60 + c.second) * 1000000 + c.micro

/-- The points in time are the same. -/
def isSame (a b : Moment) : Bool :=
  match a.clock, b.clock with
  | some c, some d =>
    match c.zone, d.zone with
    | some _, some _ => a.instant c = b.instant d
    | _, _ => a = b
  | _, _ => a = b

/-! ## Showing points in time -/

/-- A number in two figures. -/
def two (n : Nat) : Text := Text.padded 2 n

/-- A distance to universal time, in figures. -/
def shownZone (z : Int) : Text :=
  (if z < 0 then '-' else '+') :: two (z.natAbs / 60) ++ [':'] ++ two (z.natAbs % 60)

/-- A time of day, in figures. -/
def shownClock (c : Clock) : Text :=
  two c.hour ++ [':'] ++ two c.minute ++ [':'] ++ two c.second ++
    (if c.micro = 0 then [] else '.' :: Text.padded 6 c.micro) ++
    (c.zone.map shownZone).getD []

/-- A point in time, in figures. -/
def shown (m : Moment) : Text :=
  let day := Text.padded 4 m.year ++ ['-'] ++ two m.month ++ ['-'] ++ two m.day
  match m.clock with
  | none => day
  | some c => day ++ [' '] ++ shownClock c

/-- A span of minutes, by its days and seconds; both count upwards from the number of whole days. -/
def quotedSpan (minutes : Int) : Text :=
  let days := Int.fdiv minutes 1440
  let seconds := Int.fmod minutes 1440 * 60
  let parts : List Text :=
    (if days = 0 then [] else ["days=".toList ++ Text.ofInt days]) ++
      (if seconds = 0 then [] else ["seconds=".toList ++ Text.ofInt seconds])
  "datetime.timedelta(".toList ++
    (if parts.isEmpty then ['0'] else Text.join [',', ' '] parts) ++ [')']

/-- A distance to universal time, by name. -/
def quotedZone (z : Int) : Text :=
  if z = 0 then "datetime.timezone.utc".toList
  else "datetime.timezone(".toList ++ quotedSpan z ++ [')']

/-- The parts of a time of day: seconds and what is smaller only where they are not zero. -/
def quotedClock (c : Clock) : List Text :=
  let small : List Nat :=
    if c.micro ≠ 0 then [c.second, c.micro] else if c.second ≠ 0 then [c.second] else []
  (c.hour :: c.minute :: small).map Text.ofNat ++
    (c.zone.map fun z => "tzinfo=".toList ++ quotedZone z).toList

/-- A point in time with the names of its parts. -/
def quoted (m : Moment) : Text :=
  let day := [m.year, m.month, m.day].map Text.ofNat
  match m.clock with
  | none => "datetime.date(".toList ++ Text.join [',', ' '] day ++ [')']
  | some c => "datetime.datetime(".toList ++ Text.join [',', ' '] (day ++ quotedClock c) ++ [')']

end Moment

end GoCompletion
