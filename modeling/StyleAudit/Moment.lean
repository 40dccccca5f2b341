/-!
# Moments

A moment of local time, to the millisecond, and the three ways in which it is written: in the
name of a log, before an entry of a log, and as a day in the subject of a mail.
-/

namespace StyleAudit

/-- A moment of local time. -/
structure Moment where
  /-- The year. -/
  year : Nat
  /-- The month, from 1. -/
  month : Nat
  /-- The day of the month, from 1. -/
  day : Nat
  /-- The hour. -/
  hour : Nat
  /-- The minute. -/
  minute : Nat
  /-- The second. -/
  second : Nat
  /-- The millisecond. -/
  millisecond : Nat := 0

namespace Moment

/-- A number in at least so many digits. -/
def digits (width n : Nat) : String :=
  let ds := toString n
  String.ofList (List.replicate (width - ds.length) '0') ++ ds

/-- A year in four digits; one that needs more carries a sign. -/
def yearText (n : Nat) : String := if n < 10000 then digits 4 n else "+" ++ toString n

/-- Day, month and year. -/
def dayText (m : Moment) : String :=
  digits 2 m.day ++ "-" ++ digits 2 m.month ++ "-" ++ yearText m.year

/-- The moment in the name of a log. -/
def nameText (m : Moment) : String :=
  digits 2 m.hour ++ "-" ++ digits 2 m.minute ++ "-" ++ digits 2 m.second ++ "-on-" ++ m.dayText

/-- The moment before an entry of a log. -/
def stamp (m : Moment) : String :=
  yearText m.year ++ "-" ++ digits 2 m.month ++ "-" ++ digits 2 m.day ++ " " ++
    digits 2 m.hour ++ ":" ++ digits 2 m.minute ++ ":" ++ digits 2 m.second ++ "," ++
    digits 3 m.millisecond

end Moment

/-- What a clock shows each time that it is read. -/
abbrev Clock := Nat → Moment

/-- The clock after it was read `n` times. -/
def Clock.later (clock : Clock) (n : Nat) : Clock := fun k => clock (n + k)

end StyleAudit
