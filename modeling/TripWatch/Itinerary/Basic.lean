import TripWatch.Geo.Distance
import TripWatch.Calendar.LocalTime
import TripWatch.Number.Calculation

/-!
# Itineraries

What a planner proposes: legs from place to place, each with its estimated times, its delays and
the alerts that concern it. Estimated times include delays, so a scheduled time is an estimated
time without its delay. Times and delays are as the planner has them, so a scheduled time is found
only where the calculation comes to one.

## Main definitions

* `Place`, `Alert`, `Step`, `Leg`, `Itinerary` — what the planner proposes
* `Leg.signature` — what makes two legs the same leg when itineraries are compared
* `Itinerary.alerts` — all alerts, each once
* `Itinerary.scheduledDeparture`, `Itinerary.scheduledArrival` — the times without delays
-/

namespace TripWatch

/-- A named place, perhaps a stop. -/
structure Place where
  /-- The name shown to riders. -/
  name : String
  /-- Degrees to the north. -/
  lat : Double
  /-- Degrees to the east. -/
  lon : Double
  /-- The stop's identifier. -/
  stopId : Option String
  deriving BEq, Inhabited

/-- Where a place is. -/
def Place.coordinates (p : Place) : Coordinates := ⟨p.lat, p.lon⟩

/-- A notice about the service. Two alerts with the same content are the same alert. -/
structure Alert where
  /-- A headline. -/
  header : Option String
  /-- The full text. -/
  description : Option String
  /-- Where to read more. -/
  url : Option String
  /-- From when on it holds. -/
  effectiveStart : Option Instant
  deriving DecidableEq, Inhabited

/-- One line about the alert. -/
def Alert.summary (a : Alert) : String := (a.header.or a.description).getD "Service alert"

/-- A step of a leg along streets. -/
structure Step where
  /-- The length in metres. -/
  distance : Double
  /-- The turn, as in `SLIGHTLY_LEFT`. -/
  relativeDirection : String
  /-- The heading, as in `NORTHEAST`. -/
  absoluteDirection : String
  /-- The street that is followed. -/
  streetName : String
  /-- Degrees to the north. -/
  lat : Double
  /-- Degrees to the east. -/
  lon : Double
  deriving BEq, Inhabited

/-- Where a step begins. -/
def Step.coordinates (s : Step) : Coordinates := ⟨s.lat, s.lon⟩

/-- A leg of an itinerary. -/
structure Leg where
  /-- The kind of vehicle, or walking. -/
  mode : String
  /-- Whether the leg is ridden. -/
  isTransit : Bool
  /-- The route's name for riders. -/
  route : Option String
  /-- The route's identifier. -/
  routeId : Option String
  /-- What the vehicle shows. -/
  headsign : Option String
  /-- Where the leg begins. -/
  origin : Place
  /-- Where the leg ends. -/
  destination : Place
  /-- When it is estimated to begin. -/
  startTime : Instant
  /-- When it is estimated to end. -/
  endTime : Instant
  /-- How late it begins, in seconds. -/
  departureDelay : Int64
  /-- How late it ends, in seconds. -/
  arrivalDelay : Int64
  /-- Whether the times are observed. -/
  isRealTime : Bool
  /-- The stops between. -/
  intermediateStops : List Place
  /-- The steps along streets. -/
  steps : List Step
  /-- The alerts that concern the leg. -/
  alerts : List Alert
  deriving BEq, Inhabited

/-- What makes two legs the same leg when itineraries are compared. -/
structure LegSignature where
  /-- The kind of vehicle. -/
  mode : String
  /-- The route's identifier, or else its name. -/
  route : Option String
  /-- The first stop's identifier, or else its name. -/
  origin : String
  /-- The last stop's identifier, or else its name. -/
  destination : String
  deriving DecidableEq

/-- A time without a delay in seconds that it includes. -/
def Instant.withoutDelay (estimated : Instant) (delay : Int64) : Calculation Instant := do
  let millis ← .perform (.product delay 1000)
  .perform (.difference estimated millis)

namespace Leg

/-- The estimated duration in whole seconds, rounded toward zero. -/
def durationSecs (l : Leg) : Calculation Int64 := do
  let millis ← .perform (.difference l.endTime l.startTime)
  return millis / 1000

/-- When the leg is scheduled to begin. -/
def scheduledStart (l : Leg) : Calculation Instant := l.startTime.withoutDelay l.departureDelay

/-- When the leg is scheduled to end. -/
def scheduledEnd (l : Leg) : Calculation Instant := l.endTime.withoutDelay l.arrivalDelay

/-- What riders call the route. -/
def routeLabel (l : Leg) : String := (l.route.or l.routeId).getD l.mode

/-- The path as far as it is known: origin, steps, destination. -/
def path (l : Leg) : List Coordinates :=
  l.origin.coordinates :: l.steps.map Step.coordinates ++ [l.destination.coordinates]

/-- The stops in order: where riders board, the stops between, where they alight. -/
def stops (l : Leg) : List Coordinates :=
  l.origin.coordinates :: l.intermediateStops.map Place.coordinates ++
    [l.destination.coordinates]

/-- The leg's signature. -/
def signature (l : Leg) : LegSignature where
  mode := l.mode
  route := l.routeId.or l.route
  origin := l.origin.stopId.getD l.origin.name
  destination := l.destination.stopId.getD l.destination.name

end Leg

/-- An itinerary. -/
structure Itinerary where
  /-- When it is estimated to begin. -/
  startTime : Instant
  /-- When it is estimated to end. -/
  endTime : Instant
  /-- The legs in travel order. -/
  legs : List Leg
  deriving BEq, Inhabited

/-- The items of a list at their first places, each once. -/
def firstPlaces {α : Type} [DecidableEq α] (items : List α) : List α :=
  items.foldl (fun seen a => if a ∈ seen then seen else seen ++ [a]) []

namespace Itinerary

/-- All alerts of the legs, each once, in order of first appearance. -/
def alerts (i : Itinerary) : List Alert := firstPlaces (i.legs.flatMap Leg.alerts)

/-- When it is scheduled to begin. -/
def scheduledDeparture (i : Itinerary) : Calculation Instant :=
  match i.legs.head? with
  | some leg => i.startTime.withoutDelay leg.departureDelay
  | none => return i.startTime

/-- When it is scheduled to end. -/
def scheduledArrival (i : Itinerary) : Calculation Instant :=
  match i.legs.getLast? with
  | some leg => i.endTime.withoutDelay leg.arrivalDelay
  | none => return i.endTime

/-- Whether an instant lies within the itinerary. -/
def isActiveAt (i : Itinerary) (t : Instant) : Bool :=
  decide (i.startTime ≤ t ∧ t ≤ i.endTime)

/-- The signatures of the legs. -/
def signatures (i : Itinerary) : List LegSignature := i.legs.map Leg.signature

/-- Where it ends. -/
def destination (i : Itinerary) : Option Place := i.legs.getLast?.map Leg.destination

end Itinerary

end TripWatch
