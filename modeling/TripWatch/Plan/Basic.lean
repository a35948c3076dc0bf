import TripWatch.Trip.Basic
import TripWatch.Number.Shortest

/-!
# Asking the planner

What the planner is asked for a trip on a date, and what it may answer: itineraries, a refusal
with a reason, or nothing usable.

## Main definitions

* `PlanRequest.ofTrip`, `PlanRequest.params` — the request and its parameters
* `PlanResponse` — itineraries and a refusal
* `Refusal` — the reasons for which no trip is planned; one of them is a failure of the service
* `PlannerFault` — an answer that is no response
-/

namespace TripWatch

/-- What the planner is asked. -/
structure PlanRequest where
  /-- Where the trip begins. -/
  origin : Place
  /-- Where it ends. -/
  destination : Place
  /-- On which date. -/
  date : Date
  /-- At what time of day, as the rider wrote it. -/
  time : String
  /-- The ways of travel. -/
  modes : List String
  /-- Whether the time is that of arrival. -/
  arriveBy : Bool
  deriving BEq

namespace PlanRequest

/-- The request for a trip on a date. -/
def ofTrip (t : Trip) (date : Date) : PlanRequest where
  origin := t.origin
  destination := t.destination
  date := date
  time := t.time
  modes := t.modes
  arriveBy := t.arriveBy

/-- A place as latitude and longitude. -/
def placeText (p : Place) : String := p.lat.plainText ++ "," ++ p.lon.plainText

/-- The parameters by name. -/
def params (r : PlanRequest) : List (String × String) :=
  [("fromPlace", placeText r.origin), ("toPlace", placeText r.destination),
    ("date", r.date.text), ("time", r.time), ("mode", ",".intercalate r.modes),
    ("arriveBy", if r.arriveBy then "true" else "false")]

end PlanRequest

/-- What the planner says when it refuses. -/
structure RefusalBody where
  /-- A number. -/
  id : Option Int
  /-- A text for people. -/
  msg : Option String
  /-- A constant, as in `PATH_NOT_FOUND`. -/
  message : Option String
  deriving DecidableEq

/-- What the planner answers. -/
structure PlanResponse where
  /-- The itineraries it found, best first. -/
  plan : Option (List Itinerary)
  /-- Why it found none. -/
  refusal : Option RefusalBody
  deriving BEq

namespace PlanResponse

/-- An answer without content. -/
def empty : PlanResponse := ⟨none, none⟩

/-- The best itinerary; no other one is looked at. -/
def first? (r : PlanResponse) : Option Itinerary := r.plan.bind List.head?

/-- An answer with one itinerary. -/
def ofItinerary (i : Itinerary) : PlanResponse := ⟨some [i], none⟩

end PlanResponse

/-- Why no trip is planned. -/
inductive Refusal where
  | pathNotFound
  | noTransitTimes
  | outsideBounds
  | locationNotAccessible
  | tooClose
  | underspecified
  | systemError
  | unknown
  deriving DecidableEq, Repr

namespace Refusal

/-- The reason that a planner's constant stands for. -/
def ofConstant : String → Refusal
  | "PATH_NOT_FOUND" | "NO_TRANSIT_CONNECTION" => pathNotFound
  | "NO_TRANSIT_TIMES" => noTransitTimes
  | "OUTSIDE_BOUNDS" | "OUTSIDE_SERVICE_PERIOD" => outsideBounds
  | "LOCATION_NOT_ACCESSIBLE" => locationNotAccessible
  | "TOO_CLOSE" => tooClose
  | "UNDERSPECIFIED_TRIP" => underspecified
  | "SYSTEM_ERROR" | "GRAPH_UNAVAILABLE" | "REQUEST_TIMEOUT" => systemError
  | _ => unknown

/-- The name of a reason. -/
def name : Refusal → String
  | pathNotFound => "PathNotFound"
  | noTransitTimes => "NoTransitTimes"
  | outsideBounds => "OutsideBounds"
  | locationNotAccessible => "LocationNotAccessible"
  | tooClose => "TooClose"
  | underspecified => "UnderspecifiedTrip"
  | systemError => "SystemError"
  | unknown => "Unknown"

/-- Whether the service failed, so that nothing is known about the trip. -/
def isServiceFailure (r : Refusal) : Bool := r == systemError

/-- What the rider is told. -/
def userMessage : Refusal → String
  | pathNotFound => "No trip found for the requested origin and destination."
  | noTransitTimes => "No transit service is scheduled at the requested time."
  | outsideBounds => "The trip is outside the area or dates covered by the planner."
  | locationNotAccessible => "The origin or destination is not accessible."
  | tooClose => "Origin and destination are too close to plan a trip."
  | underspecified => "The trip is missing an origin or destination."
  | systemError => "The trip planner is temporarily unavailable."
  | unknown => "The trip could not be planned."

end Refusal

/-- The reason that a response gives, if it gives one. -/
def PlanResponse.reason? (r : PlanResponse) : Option Refusal :=
  (r.refusal.bind RefusalBody.message).map Refusal.ofConstant

/-- Why a call to the planner brought no response. -/
inductive PlannerFault where
  /-- It answered with an error status. -/
  | unavailable (status : Nat)
  /-- It could not be reached, or its answer could not be read. -/
  | transport
  deriving DecidableEq, Repr

/-- The wording of a fault. -/
def PlannerFault.message : PlannerFault → String
  | unavailable status => "trip planner answered with status " ++ toString status
  | transport => "trip planner request failed"

/-- How a call to the planner ends. -/
inductive PlannerReply where
  /-- With a response. -/
  | response (r : PlanResponse)
  /-- With a fault. -/
  | fault (f : PlannerFault)
  /-- Not within the time allowed. -/
  | timeout

end TripWatch
