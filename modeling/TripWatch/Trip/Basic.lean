import TripWatch.Itinerary.Basic
import TripWatch.Trip.Locale

/-!
# Saved trips and their riders

A trip that a rider has saved: where from and to, at what time, on which days, and which changes
the rider wants to hear of.

## Main definitions

* `ActiveDays` — the days of the week on which a trip is made; `ActiveDays.next?` is the next such
  date
* `Preferences` — which notifications a rider wants
* `Trip`, `User` — what riders enter
-/

namespace TripWatch

/-- The days of the week on which a trip is made. -/
structure ActiveDays where
  monday : Bool
  tuesday : Bool
  wednesday : Bool
  thursday : Bool
  friday : Bool
  saturday : Bool
  sunday : Bool
  deriving DecidableEq, Inhabited

namespace ActiveDays

/-- No day. -/
def never : ActiveDays := ⟨false, false, false, false, false, false, false⟩

/-- Monday to Friday. -/
def weekdays : ActiveDays := ⟨true, true, true, true, true, false, false⟩

/-- Whether the trip is made on a day of the week. -/
def isActiveOn (days : ActiveDays) : Weekday → Bool
  | .monday => days.monday
  | .tuesday => days.tuesday
  | .wednesday => days.wednesday
  | .thursday => days.thursday
  | .friday => days.friday
  | .saturday => days.saturday
  | .sunday => days.sunday

/-- The seven marks from Monday. -/
def toList (days : ActiveDays) : List Bool :=
  [days.monday, days.tuesday, days.wednesday, days.thursday, days.friday, days.saturday,
    days.sunday]

/-- How many days of the week are active. -/
def count (days : ActiveDays) : Nat := days.toList.count true

/-- The first active date among seven from `start` on. -/
def next? (days : ActiveDays) (start : Date) : Option Date :=
  ((List.range 7).filterMap start.plusDays?).find? fun date => days.isActiveOn date.weekday

end ActiveDays

/-- Which notifications a rider wants. -/
structure Preferences where
  /-- Of new alerts. -/
  onAlert : Bool
  /-- Of delays. -/
  onDelay : Bool
  /-- Of other legs than before. -/
  onItineraryChange : Bool
  /-- From how many minutes on a change of the departure counts. -/
  departureThreshold : UInt32
  /-- From how many minutes on a change of the arrival counts. -/
  arrivalThreshold : UInt32
  deriving DecidableEq

/-- All notifications, with changes of a quarter of an hour. -/
def Preferences.standard : Preferences := ⟨true, true, true, 15, 15⟩

/-- A saved trip. -/
structure Trip where
  /-- The trip's identifier. -/
  id : String
  /-- Whose trip it is. -/
  userId : String
  /-- The rider's name for it. -/
  name : Option String
  /-- Whether it is monitored. -/
  isActive : Bool
  /-- Where it begins. -/
  origin : Place
  /-- Where it ends. -/
  destination : Place
  /-- The time of day in hours and minutes, as the rider wrote it. -/
  time : String
  /-- Whether the time is that of arrival. -/
  arriveBy : Bool
  /-- The ways of travel. -/
  modes : List String
  /-- The days on which it is made. -/
  days : ActiveDays
  /-- Which notifications are wanted. -/
  preferences : Preferences
  /-- The itinerary that was found last. -/
  itinerary : Option Itinerary
  deriving BEq

namespace Trip

/-- The name in messages: the rider's name for the trip unless it is blank. -/
def displayName (t : Trip) : String :=
  match t.name with
  | some name => if name.toList.all Text.isSpace then "Trip" else name
  | none => "Trip"

/-- The time of day. -/
def timeOfDay (t : Trip) : Except TimeFault TimeOfDay := TimeOfDay.ofText t.time

end Trip

/-- A rider. -/
structure User where
  /-- The rider's identifier. -/
  id : String
  /-- Where electronic mail goes. -/
  email : Option String
  /-- Where short messages go. -/
  phoneNumber : Option String
  /-- How the rider wants to be told. -/
  channel : String
  /-- The rider's language. -/
  locale : Locale
  deriving DecidableEq

end TripWatch
