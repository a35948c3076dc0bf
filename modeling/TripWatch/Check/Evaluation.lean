import TripWatch.Check.Change
import TripWatch.Plan.Basic
import TripWatch.Store.Basic

/-!
# Checking a trip

A check finds the next date of a trip, asks the planner for an itinerary on it, and compares the
answer with what is remembered. It is split where the planner is asked, so that what comes before
and after are functions of their own.

## Main definitions

* `CheckOutcome`, `CheckFault` — how a check ends
* `shouldSkip` — whether the trip's time has passed on a day on which it is not made
* `prepare` — what is done before the planner is asked; it may settle the check
* `conclude` — what is done with the planner's reply
* `check` — the whole
-/

namespace TripWatch

/-- How a check ends that does not fail. -/
inductive CheckOutcome where
  /-- There was nothing to check. -/
  | skipped
  /-- The new state, and what the rider is told. -/
  | checked (state : JourneyState) (notifications : List Notification)

/-- Why a check fails. -/
inductive CheckFault where
  /-- The trip is not stored. -/
  | tripNotFound (tripId : String)
  /-- The trip's rider is not stored. -/
  | userNotFound (tripId userId : String)
  /-- The planner gave no response. -/
  | planner (fault : PlannerFault)
  /-- The planner did not reply within a number of milliseconds. -/
  | plannerTimeout (limit : Nat)
  /-- The planner's service failed. -/
  | plannerFailure (reason : Refusal)
  /-- The store failed. -/
  | store (fault : StoreFault)
  /-- A calculation left the words. Nobody reports this: the check breaks off where it stands. -/
  | overflow

/-- The name of a kind of fault. -/
def CheckFault.name : CheckFault → String
  | tripNotFound _ => "TripNotFound"
  | userNotFound .. => "UserNotFound"
  | planner _ => "Planner"
  | plannerTimeout _ => "PlannerTimeout"
  | plannerFailure _ => "PlannerFailure"
  | store _ => "Store"
  | overflow => "Overflow"

/-- A number of milliseconds: as such below a second, and in seconds with as many places as needed
from there on. -/
def durationText (millis : Nat) : String :=
  if millis = 0 then "0ns"
  else if millis < 1000 then toString millis ++ "ms"
  else
    let places := (Date.padded 3 (millis % 1000)).reverse.dropWhile (· = '0')
    let fraction := if places = [] then "" else "." ++ String.ofList places.reverse
    toString (millis / 1000) ++ fraction ++ "s"

/-- The wording of a fault. -/
def CheckFault.message : CheckFault → String
  | tripNotFound tripId => "monitored trip " ++ tripId ++ " not found"
  | userNotFound tripId userId =>
    "user " ++ userId ++ " of monitored trip " ++ tripId ++ " not found"
  | planner fault => fault.message
  | plannerTimeout limit => "trip planner did not answer within " ++ durationText limit
  | plannerFailure reason => "trip planner failed: " ++ reason.userMessage
  | store fault => fault.message
  | overflow => "attempt to calculate with overflow"

/-- Whether there is nothing to check: the trip is not made today and its time has passed. A trip
whose time cannot be read is always checked. -/
def shouldSkip (t : Trip) (now : LocalTime) : Bool :=
  match t.timeOfDay with
  | .ok time => !t.days.isActiveOn now.date.weekday && decide (time.millis < now.time.millis)
  | .error _ => false

/-! ### Recording the result -/

/-- What the rider is told when a trip is not possible. -/
def notPossibleText (status : TripStatus) (date : Option Date) (reason : Option Refusal) : String :=
  let sentence := match status, date with
    | .nextTripNotPossible, some date => "Your trip is not possible on " ++ date.sentenceText ++ "."
    | .nextTripNotPossible, none => "Your next trip is not possible."
    | _, _ => "Your trip is no longer possible."
  match reason with
  | some reason => sentence ++ " " ++ reason.userMessage
  | none => sentence

/-- The end of a check without an itinerary. The rider is told if this was not known before. -/
def recordNotPossible (state : JourneyState) (t : Trip) (now : Instant) (reason : Option Refusal) :
    JourneyState × List Notification :=
  let status := TripStatus.withoutItinerary t.days
  let notifications :=
    if state.status = some status then []
    else [⟨.tripNotPossible, notPossibleText status state.targetDate reason⟩]
  ({ state with
      status := some status
      lastChecked := some now
      lastNotifications := notifications.map Notification.kind },
    notifications)

/-- The baselines after an itinerary was compared with them, and what is told of delays. -/
def compareTimes (p : Preferences) (state : JourneyState) (current : Itinerary) :
    Calculation (JourneyState × List Notification) :=
  if p.onDelay then do
    let departure ← checkDelay .departure current.startTime (← current.scheduledDeparture)
      state.baselineDeparture p.departureThreshold
    let arrival ← checkDelay .arrival current.endTime (← current.scheduledArrival)
      state.baselineArrival p.arrivalThreshold
    return ({ state with
        baselineDeparture := some departure.2, baselineArrival := some arrival.2 },
      departure.1.toList ++ arrival.1.toList)
  else return (state, [])

/-- What the rider is told of an itinerary, in the order alerts, delays, legs. -/
def compareItinerary (p : Preferences) (state : JourneyState) (current : Itinerary) :
    Calculation (JourneyState × List Notification) := do
  let previous := state.matchingItinerary
  let alerts := if p.onAlert then (alertNotification? previous current).toList else []
  let (state, delays) ← compareTimes p state current
  let shape := if p.onItineraryChange then (shapeNotification? previous current).toList else []
  return (state, alerts ++ delays ++ shape)

/-- The end of a check with an itinerary. -/
def recordFound (state : JourneyState) (t : Trip) (now : Instant) (current : Itinerary) :
    Calculation (JourneyState × List Notification) := do
  let (state, notifications) ← compareItinerary t.preferences state current
  let state ← state.recordItinerary current
  return ({ state with
      status := some (.classify now (some current) t.days)
      lastChecked := some now
      lastNotifications := notifications.map Notification.kind },
    notifications)

/-- The outcome with a state and notifications. -/
def CheckOutcome.ofRecord (r : JourneyState × List Notification) : CheckOutcome :=
  .checked r.1 r.2

/-! ### Before and after the planner -/

/-- How far a check has come without the planner. -/
inductive Prepared where
  /-- The trip has no active day, which settles the check. -/
  | settled (outcome : CheckOutcome)
  /-- The planner has to be asked for the state's date. -/
  | asking (state : JourneyState) (request : PlanRequest)

/-- What is done before the planner is asked: the state is moved to the next active date. -/
def prepare (t : Trip) (previous : Option JourneyState) (now : LocalTime) : Prepared :=
  let state := previous.getD (.new t.id)
  match t.days.next? now.date with
  | none => .settled (.ofRecord (recordNotPossible state t now.instant none))
  | some date => .asking (state.rollOver date) (.ofTrip t date)

/-- What is done with a response. A failure of the service ends the check; any other refusal counts
only where there is no itinerary. An itinerary that cannot be calculated with breaks the check off
before anything is recorded. -/
def concludeResponse (t : Trip) (state : JourneyState) (now : Instant) (response : PlanResponse) :
    Except CheckFault CheckOutcome :=
  match response.reason?.filter Refusal.isServiceFailure with
  | some reason => .error (.plannerFailure reason)
  | none =>
    match response.first? with
    | none => .ok (.ofRecord (recordNotPossible state t now response.reason?))
    | some itinerary =>
      match (recordFound state t now itinerary).run? with
      | none => .error .overflow
      | some record => .ok (.ofRecord record)

/-- What is done with the planner's reply. -/
def conclude (limit : Nat) (t : Trip) (state : JourneyState) (now : Instant) :
    PlannerReply → Except CheckFault CheckOutcome
  | .response response => concludeResponse t state now response
  | .fault fault => .error (.planner fault)
  | .timeout => .error (.plannerTimeout limit)

/-- A check that is not skipped, with a planner that replies to requests. -/
def evaluate (limit : Nat) (planner : PlanRequest → PlannerReply) (t : Trip)
    (previous : Option JourneyState) (now : LocalTime) : Except CheckFault CheckOutcome :=
  match prepare t previous now with
  | .settled outcome => .ok outcome
  | .asking state request => conclude limit t state now.instant (planner request)

/-- A check. -/
def check (limit : Nat) (planner : PlanRequest → PlannerReply) (t : Trip)
    (previous : Option JourneyState) (now : LocalTime) : Except CheckFault CheckOutcome :=
  if shouldSkip t now then .ok .skipped else evaluate limit planner t previous now

/-- What a check asks the planner, if it does. -/
def request? (t : Trip) (previous : Option JourneyState) (now : LocalTime) : Option PlanRequest :=
  if shouldSkip t now then none
  else match prepare t previous now with
    | .settled _ => none
    | .asking _ request => some request

end TripWatch
