import TripWatch.Calendar.Clock

/-!
# Time zones

A time zone tells how far local clocks are ahead of universal time. Most zones keep one offset or
put clocks forward for part of the year by a yearly rule; a few follow no rule, and their changes
are listed.

## Main definitions

* `ClockRule` — how the offset of a zone depends on the instant; `ClockRule.offset` evaluates it
* `Zone` — a zone's name and rule
-/

namespace TripWatch

/-- A time of the year at which clocks are changed. -/
structure YearlyChange where
  /-- The month, January being 1. -/
  month : Nat
  /-- Which of the month's days with that weekday: 1 is the first, 5 the last. -/
  week : Nat
  /-- The day of the week. -/
  weekday : Weekday
  /-- Seconds after that day's midnight. -/
  seconds : Int
  /-- Whether midnight is that of universal time, and not of the clock before its change. -/
  universal : Bool

namespace YearlyChange

/-- The day number of the change in a year: the first such weekday of the month and full weeks after
it, or full weeks before the next month's first one. -/
def dayNumber (c : YearlyChange) (year : Int) : Int :=
  let firstOf (start : Int) : Int := start + (c.weekday.index - (start + 3)) % 7
  if c.week < 5 then firstOf (Civil.dayNumber ⟨year, c.month, 1⟩) + 7 * (c.week - 1 : Int)
  else if c.month < 12 then firstOf (Civil.dayNumber ⟨year, c.month + 1, 1⟩) - 7
  else firstOf (Civil.dayNumber ⟨year + 1, 1, 1⟩) - 7

/-- The instant of the change in a year, in seconds, where clocks before it are ahead by an
offset. -/
def instant (c : YearlyChange) (year offset : Int) : Int :=
  c.dayNumber year * 86400 + c.seconds - if c.universal then 0 else offset

end YearlyChange

/-- A yearly time of clocks put forward. -/
structure Daylight where
  /-- By how many seconds. -/
  saving : Int
  /-- When clocks are put forward. -/
  start : YearlyChange
  /-- When they are put back. -/
  stop : YearlyChange

namespace Daylight

/-- Whether clocks are put forward at an instant, where they are else ahead by `standard`. South of
the equator that time goes over the turn of the year. -/
def inForce (d : Daylight) (standard instant : Int) : Bool :=
  let year := (Civil.ofDayNumber ((instant + standard) / 86400)).year
  let start := d.start.instant year standard
  let stop := d.stop.instant year (standard + d.saving)
  if start ≤ stop then decide (start ≤ instant ∧ instant < stop)
  else !decide (stop ≤ instant ∧ instant < start)

end Daylight

/-- How far local clocks are ahead, in seconds. -/
inductive ClockRule where
  /-- Always the same. -/
  | fixed (offset : Int)
  /-- Put forward every year. -/
  | yearly (standard : Int) (daylight : Daylight)
  /-- A first offset, and instants from which on another one holds, in order. -/
  | listed (first : Int) (changes : List (Int × Int))

namespace ClockRule

/-- The offset at an instant, both in seconds. -/
def offset (rule : ClockRule) (instant : Int) : Int :=
  match rule with
  | fixed offset => offset
  | yearly standard daylight =>
    if daylight.inForce standard instant then standard + daylight.saving else standard
  | listed first changes =>
    changes.foldl (fun now change => if change.1 ≤ instant then change.2 else now) first

end ClockRule

/-- A time zone. -/
structure Zone where
  /-- The name in the time zone database. -/
  name : String
  /-- The rule of its clocks. -/
  rule : ClockRule

end TripWatch
