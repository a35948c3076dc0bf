import TripWatch.Itinerary.Basic
import TripWatch.Json.Decode
import TripWatch.Json.Value

/-!
# Itineraries as JSON

Writers and readers of places, alerts, steps, legs and itineraries. Every field is written; fields
with a default may be left out when they are read.
-/

namespace TripWatch

open Json

namespace Coordinates

/-- Writes coordinates. -/
def toJson (c : Coordinates) : Json := .record [("lat", .double c.lat), ("lon", .double c.lon)]

/-- Reads coordinates. -/
def decoder : Decoder Coordinates := .record <|
  Coordinates.mk <$> .required "lat" .double <*> .required "lon" .double

end Coordinates

namespace Segment

/-- Writes a segment. -/
def toJson (s : Segment) : Json :=
  .record [("start", s.start.toJson), ("end", s.finish.toJson)]

/-- Reads a segment. -/
def decoder : Decoder Segment := .record <|
  Segment.mk <$> .required "start" Coordinates.decoder <*> .required "end" Coordinates.decoder

end Segment

namespace Place

/-- Writes a place. -/
def toJson (p : Place) : Json :=
  .record [("name", .text p.name), ("lat", .double p.lat), ("lon", .double p.lon),
    ("stopId", .ofText? p.stopId)]

/-- Reads a place. -/
def decoder : Decoder Place := .record <|
  Place.mk <$> .required "name" .text <*> .required "lat" .double <*> .required "lon" .double <*>
    .optional "stopId" .text

end Place

namespace Alert

/-- Writes an alert. -/
def toJson (a : Alert) : Json :=
  .record [("alertHeaderText", .ofText? a.header), ("alertDescriptionText", .ofText? a.description),
    ("alertUrl", .ofText? a.url), ("effectiveStartDate", .ofWord? a.effectiveStart)]

/-- Reads an alert. -/
def decoder : Decoder Alert := .record <|
  Alert.mk <$> .optional "alertHeaderText" .text <*> .optional "alertDescriptionText" .text <*>
    .optional "alertUrl" .text <*> .optional "effectiveStartDate" .word

end Alert

namespace Step

/-- Writes a step. -/
def toJson (s : Step) : Json :=
  .record [("distance", .double s.distance), ("relativeDirection", .text s.relativeDirection),
    ("absoluteDirection", .text s.absoluteDirection), ("streetName", .text s.streetName),
    ("lat", .double s.lat), ("lon", .double s.lon)]

/-- Reads a step. -/
def decoder : Decoder Step := .record <|
  Step.mk <$> .withDefault "distance" .zero .double <*> .required "relativeDirection" .text <*>
    .required "absoluteDirection" .text <*> .required "streetName" .text <*>
    .required "lat" .double <*> .required "lon" .double

end Step

/-- Writes a signature. -/
def LegSignature.toJson (s : LegSignature) : Json :=
  .record [("mode", .text s.mode), ("route", .ofText? s.route), ("from", .text s.origin),
    ("to", .text s.destination)]

namespace Leg

/-- Writes a leg. -/
def toJson (l : Leg) : Json :=
  .record [("mode", .text l.mode), ("transitLeg", .bool l.isTransit), ("route", .ofText? l.route),
    ("routeId", .ofText? l.routeId), ("headsign", .ofText? l.headsign),
    ("from", l.origin.toJson), ("to", l.destination.toJson), ("startTime", .ofWord l.startTime),
    ("endTime", .ofWord l.endTime), ("departureDelay", .ofWord l.departureDelay),
    ("arrivalDelay", .ofWord l.arrivalDelay), ("realTime", .bool l.isRealTime),
    ("intermediateStops", .ofList Place.toJson l.intermediateStops),
    ("steps", .ofList Step.toJson l.steps), ("alerts", .ofList Alert.toJson l.alerts)]

/-- Reads a leg. -/
def decoder : Decoder Leg := .record <|
  Leg.mk <$> .required "mode" .text <*> .withDefault "transitLeg" false .bool <*>
    .optional "route" .text <*> .optional "routeId" .text <*> .optional "headsign" .text <*>
    .required "from" Place.decoder <*> .required "to" Place.decoder <*>
    .required "startTime" .word <*> .required "endTime" .word <*>
    .withDefault "departureDelay" 0 .word <*> .withDefault "arrivalDelay" 0 .word <*>
    .withDefault "realTime" false .bool <*>
    .withDefault "intermediateStops" [] (.list Place.decoder) <*>
    .withDefault "steps" [] (.list Step.decoder) <*>
    .withDefault "alerts" [] (.list Alert.decoder)

end Leg

namespace Itinerary

/-- Writes an itinerary. -/
def toJson (i : Itinerary) : Json :=
  .record [("startTime", .ofWord i.startTime), ("endTime", .ofWord i.endTime),
    ("legs", .ofList Leg.toJson i.legs)]

/-- Reads an itinerary. -/
def decoder : Decoder Itinerary := .record <|
  Itinerary.mk <$> .required "startTime" .word <*> .required "endTime" .word <*>
    .required "legs" (.list Leg.decoder)

end Itinerary

end TripWatch
