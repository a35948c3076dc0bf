import TripWatch.Notice.Basic

/-!
# The state of a monitored journey

What is remembered of a trip between checks: the date it is checked for, the itinerary that was
found last, the times that riders were last told, and the status.

## Main definitions

* `TripStatus`, `TripStatus.ofItinerary`, `TripStatus.classify` — what is known of a trip
* `JourneyState` — the state
* `JourneyState.rollOver`, `JourneyState.recordItinerary` — the state on a date, and with an
  itinerary
-/

namespace TripWatch

/-- What is known of a trip. -/
inductive TripStatus where
  | noLongerPossible
  | nextTripNotPossible
  | upcoming
  | active
  deriving DecidableEq, Repr

namespace TripStatus

/-- The constant for a status. -/
def name : TripStatus → String
  | noLongerPossible => "NO_LONGER_POSSIBLE"
  | nextTripNotPossible => "NEXT_TRIP_NOT_POSSIBLE"
  | upcoming => "TRIP_UPCOMING"
  | active => "TRIP_ACTIVE"

/-- The status of a constant. -/
def ofName? : String → Option TripStatus
  | "NO_LONGER_POSSIBLE" => some noLongerPossible
  | "NEXT_TRIP_NOT_POSSIBLE" => some nextTripNotPossible
  | "TRIP_UPCOMING" => some upcoming
  | "TRIP_ACTIVE" => some active
  | _ => none

theorem ofName?_name (s : TripStatus) : ofName? s.name = some s := by cases s <;> rfl

/-- Whether the trip can be made. -/
def isPossible : TripStatus → Bool
  | upcoming | active => true
  | noLongerPossible | nextTripNotPossible => false

/-- The status of a trip with an itinerary: active within its times, upcoming at any other time. -/
def ofItinerary (now : Instant) (i : Itinerary) : TripStatus :=
  if i.isActiveAt now then active else upcoming

/-- The status of a trip for which there is no itinerary: another day remains if more than one is
active. -/
def withoutItinerary (days : ActiveDays) : TripStatus :=
  if 1 < days.count then nextTripNotPossible else noLongerPossible

/-- The status of a trip. -/
def classify (now : Instant) (itinerary : Option Itinerary) (days : ActiveDays) : TripStatus :=
  match itinerary with
  | some i => ofItinerary now i
  | none => withoutItinerary days

end TripStatus

/-- What is remembered of a trip between checks. -/
structure JourneyState where
  /-- The trip's identifier. -/
  tripId : String
  /-- The arrival that the rider was last told. -/
  baselineArrival : Option Instant
  /-- The departure that the rider was last told. -/
  baselineDeparture : Option Instant
  /-- The scheduled arrival. -/
  scheduledArrival : Option Instant
  /-- The scheduled departure. -/
  scheduledDeparture : Option Instant
  /-- When the trip was last checked. -/
  lastChecked : Option Instant
  /-- The itinerary that was found last. -/
  matchingItinerary : Option Itinerary
  /-- The date that the trip is checked for. -/
  targetDate : Option Date
  /-- What is known of the trip. -/
  status : Option TripStatus
  /-- What the last check had to say. -/
  lastNotifications : List NotificationKind
  deriving BEq

namespace JourneyState

/-- The state of a trip that was never checked. -/
def new (tripId : String) : JourneyState where
  tripId := tripId
  baselineArrival := none
  baselineDeparture := none
  scheduledArrival := none
  scheduledDeparture := none
  lastChecked := none
  matchingItinerary := none
  targetDate := none
  status := none
  lastNotifications := []

/-- Whether moving to a date leaves another one behind. -/
def leavesDate (s : JourneyState) (date : Date) : Bool :=
  s.targetDate.isSome && s.targetDate != some date

/-- Moves the state to a date. On another date than before nothing has been told yet and nothing is
scheduled; the itinerary stays until another one is found. -/
def rollOver (s : JourneyState) (date : Date) : JourneyState :=
  if s.targetDate = some date then s
  else { s with
    targetDate := some date
    baselineArrival := none
    baselineDeparture := none
    scheduledArrival := none
    scheduledDeparture := none }

/-- Takes in an itinerary with its scheduled times. -/
def recordItinerary (s : JourneyState) (i : Itinerary) : Calculation JourneyState := do
  let departure ← i.scheduledDeparture
  let arrival ← i.scheduledArrival
  return { s with
    scheduledDeparture := some departure
    scheduledArrival := some arrival
    matchingItinerary := some i }

end JourneyState

end TripWatch
