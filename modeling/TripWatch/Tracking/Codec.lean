import TripWatch.Json.Canonical
import TripWatch.Tracking.Journey

/-!
# The written form of journeys

A journey is written for a look at how far it has come: its history by length and by the times of
its first and last positions only.
-/

namespace TripWatch

/-- Writes a cursor. -/
def Cursor.toJson (c : Cursor) : Json := .list [.ofNat c.leg, .ofNat c.step]

/-- Writes a journey. -/
def Journey.toJson (j : Journey) : Json :=
  .record [("trip_id", .text j.tripId), ("user_id", .text j.userId),
    ("start_time", .ofWord j.itinerary.startTime), ("cursor", j.cursor.toJson),
    ("history", .ofNat j.history.length),
    ("first", .ofWord? (j.history.head?.map Position.timestamp)),
    ("last", .ofWord? (j.history.getLast?.map Position.timestamp)),
    ("notified", Json.sortedTexts j.started)]

end TripWatch
