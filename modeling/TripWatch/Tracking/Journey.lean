import TripWatch.Itinerary.Codec

/-!
# Journeys that are followed

A journey is an itinerary with the positions that the traveler has reported lately, the next step,
and the actions that were started on the way.

## Main definitions

* `Position`, `Cursor`, `Journey` — where a traveler was, the next step, and all of it
* `Journey.addPosition` — takes in a position and forgets those that are too old or too many
* `Journey.movement?` — the stretch between the last two positions
* `Journey.isStale` — whether nothing was heard of it, or its time has passed
-/

namespace TripWatch

/-- Where a traveler was, and when. -/
structure Position where
  /-- Degrees to the north. -/
  lat : Double
  /-- Degrees to the east. -/
  lon : Double
  /-- When. -/
  timestamp : Instant
  deriving BEq

namespace Position

/-- Where the traveler was. -/
def coordinates (p : Position) : Coordinates := ⟨p.lat, p.lon⟩

/-- Writes a position. -/
def toJson (p : Position) : Json :=
  .record [("lat", .double p.lat), ("lon", .double p.lon), ("timestamp", .ofWord p.timestamp)]

/-- Reads a position. -/
def decoder : Json.Decoder Position := .record <|
  Position.mk <$> .required "lat" .double <*> .required "lon" .double <*>
    .required "timestamp" .word

end Position

/-- The next step of a leg. -/
structure Cursor where
  /-- Which leg. -/
  leg : Nat
  /-- Which of its steps; their number stands for the leg's end. -/
  step : Nat
  deriving DecidableEq

namespace Cursor

/-- The cursor at the beginning. -/
def start : Cursor := ⟨0, 0⟩

/-- The cursor on a leg: at its first step unless it was there before. -/
def onLeg (c : Cursor) (leg : Nat) : Cursor := if c.leg = leg then c else ⟨leg, 0⟩

/-- The cursor one step further on a leg. -/
def advance (c : Cursor) (leg : Nat) : Cursor :=
  { c.onLeg leg with step := (c.onLeg leg).step + 1 }

end Cursor

/-- A journey that is followed. -/
structure Journey where
  /-- The trip. -/
  tripId : String
  /-- The traveler. -/
  userId : String
  /-- The itinerary. -/
  itinerary : Itinerary
  /-- The positions kept, oldest first. -/
  history : List Position
  /-- The next step. -/
  cursor : Cursor
  /-- The actions that were started. -/
  started : List String

namespace Journey

/-- A journey that begins. -/
def new (tripId userId : String) (itinerary : Itinerary) : Journey :=
  ⟨tripId, userId, itinerary, [], .start, []⟩

/-- For how long a position is kept: ten minutes. -/
def historySpan : Int := 600000

/-- How many positions are kept at most. -/
def historyLimit : Nat := 600

/-- Whether an instant lies more than the span before another one. A span that would begin before
the first instant begins with it. -/
def isBefore (t now : Instant) : Bool :=
  decide (t.toInt < max (now.toInt - historySpan) Int64.minValue.toInt)

/-- A history that is not too long. -/
def shorten (history : List Position) : List Position :=
  if historyLimit < history.length then history.drop 1 else history

/-- Takes in a position. Older ones are forgotten from the oldest on, if they are too many or too
old. -/
def addPosition (j : Journey) (p : Position) : Journey :=
  let recent := shorten (j.history ++ [p])
  { j with history := recent.dropWhile fun q => isBefore q.timestamp p.timestamp }

/-- The stretch between the last two positions. -/
def movement? (j : Journey) : Option Segment :=
  match j.history.reverse with
  | current :: previous :: _ => some ⟨previous.coordinates, current.coordinates⟩
  | _ => none

/-- Whether the journey is over: nothing was heard of it for the span, or the itinerary has ended
before it. -/
def isStale (j : Journey) (now : Instant) : Bool :=
  (j.history.getLast?.all fun p => isBefore p.timestamp now) || isBefore j.itinerary.endTime now

end Journey

end TripWatch
