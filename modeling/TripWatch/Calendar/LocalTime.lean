import TripWatch.Calendar.ZoneTable

/-!
# Local time

An instant is a number of milliseconds after 1970-01-01 in universal time. A local time keeps the
instant beside the date and time of day that clocks of a zone show.

## Main definitions

* `Instant` — milliseconds after the beginning of 1970
* `LocalTime` — an instant with local date and time; `LocalTime.ofInstant?` reads the clock
* `Zone.named?` — the zone with a name
-/

namespace TripWatch

/-- An instant, in milliseconds after 1970-01-01 of universal time, as a word. What is calculated
with instants need not be one. -/
abbrev Instant := Int64

/-- The zone with a given name. -/
def Zone.named? (name : String) : Option Zone :=
  (ZoneTable.rules.find? fun (_, names) => names.contains name).map fun (rule, _) => ⟨name, rule⟩

/-- What clocks show at an instant. -/
structure LocalTime where
  /-- The instant. -/
  instant : Instant
  /-- The local date. -/
  date : Date
  /-- The local time of day. -/
  time : TimeOfDay
  deriving DecidableEq

namespace LocalTime

/-- Milliseconds of a day. -/
def millisPerDay : Int := 86400000

/-- The milliseconds that local clocks count. -/
def clockMillis (zone : Zone) (instant : Instant) : Int :=
  instant.toInt + zone.rule.offset (instant.toInt / 1000) * 1000

/-- The time of day that clocks show. -/
def timeOfDay (zone : Zone) (instant : Instant) : TimeOfDay where
  millis := (clockMillis zone instant % millisPerDay).toNat
  lt_day := by
    have : clockMillis zone instant % millisPerDay < millisPerDay :=
      Int.emod_lt_of_pos _ (by decide)
    simp only [millisPerDay] at *
    omega

/-- Whether an instant lies within the range of dates. -/
def isDated (instant : Instant) : Bool := (Date.ofDayNumber? (instant.toInt / millisPerDay)).isSome

/-- The local time at an instant, if it lies within the range of dates. -/
def ofInstant? (zone : Zone) (instant : Instant) : Option LocalTime :=
  if isDated instant then
    (Date.ofDayNumber? (clockMillis zone instant / millisPerDay)).map fun date =>
      ⟨instant, date, timeOfDay zone instant⟩
  else none

end LocalTime

end TripWatch
