import TripWatch.Journey.State
import TripWatch.Itinerary.Codec

/-!
# Journey states as JSON

Writers and readers of statuses, kinds of notifications, dates and journey states.
-/

namespace TripWatch

open Json

namespace TripStatus

/-- Writes a status. -/
def toJson (s : TripStatus) : Json := .text s.name

/-- Reads a status. -/
def decoder : Decoder TripStatus := .named ofName?

end TripStatus

namespace NotificationKind

/-- The word for a kind. -/
def name : NotificationKind → String
  | alert => "alert"
  | departureDelay => "departure_delay"
  | arrivalDelay => "arrival_delay"
  | itineraryChanged => "itinerary_changed"
  | tripNotPossible => "trip_not_possible"

/-- The kind of a word. -/
def ofName? : String → Option NotificationKind
  | "alert" => some alert
  | "departure_delay" => some departureDelay
  | "arrival_delay" => some arrivalDelay
  | "itinerary_changed" => some itineraryChanged
  | "trip_not_possible" => some tripNotPossible
  | _ => none

theorem ofName?_name (k : NotificationKind) : ofName? k.name = some k := by cases k <;> rfl

/-- Writes a kind. -/
def toJson (k : NotificationKind) : Json := .text k.name

/-- Reads a kind. -/
def decoder : Decoder NotificationKind := .named ofName?

end NotificationKind

/-- Writes a date. -/
def Date.toJson (d : Date) : Json := .text d.text

/-- Reads a date. -/
def Date.decoder : Decoder Date := .textThat ofText?

namespace JourneyState

/-- Writes a state, its itinerary by a given writer. -/
def toJsonWith (itinerary : Itinerary → Json) (s : JourneyState) : Json :=
  .record [("trip_id", .text s.tripId), ("baseline_arrival_time", .ofWord? s.baselineArrival),
    ("baseline_departure_time", .ofWord? s.baselineDeparture),
    ("scheduled_arrival_time", .ofWord? s.scheduledArrival),
    ("scheduled_departure_time", .ofWord? s.scheduledDeparture),
    ("last_checked_time", .ofWord? s.lastChecked),
    ("matching_itinerary", .ofOption itinerary s.matchingItinerary),
    ("target_date", .ofOption Date.toJson s.targetDate),
    ("trip_status", .ofOption TripStatus.toJson s.status),
    ("last_notifications", .ofList NotificationKind.toJson s.lastNotifications)]

/-- Writes a state. -/
def toJson (s : JourneyState) : Json := s.toJsonWith Itinerary.toJson

/-- Reads a state. -/
def decoder : Decoder JourneyState := .record <|
  JourneyState.mk <$> .required "trip_id" .text <*> .optional "baseline_arrival_time" .word <*>
    .optional "baseline_departure_time" .word <*> .optional "scheduled_arrival_time" .word <*>
    .optional "scheduled_departure_time" .word <*> .optional "last_checked_time" .word <*>
    .optional "matching_itinerary" Itinerary.decoder <*> .optional "target_date" Date.decoder <*>
    .optional "trip_status" TripStatus.decoder <*>
    .withDefault "last_notifications" [] (.list NotificationKind.decoder)

end JourneyState

end TripWatch
