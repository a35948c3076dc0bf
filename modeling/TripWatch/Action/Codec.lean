import TripWatch.Action.Basic
import TripWatch.Itinerary.Codec

/-!
# Actions as JSON

Writers and readers of interactions and actions. An interaction tells its kind in its first field.
-/

namespace TripWatch

open Json

namespace Interaction

/-- The fields of an interaction. -/
def members : Interaction → List (String × Json)
  | pedestrianSignal id => [("type", .text "pedestrian_signal"), ("signal_id", .text id)]
  | busOperator id => [("type", .text "bus_operator"), ("route_id", .text id)]

/-- Writes an interaction. -/
def toJson (i : Interaction) : Json := .record i.members

/-- The fields of the interactions of a kind. -/
def reader? : String → Option (FieldReader Interaction)
  | "pedestrian_signal" => some (pedestrianSignal <$> .required "signal_id" .text)
  | "bus_operator" => some (busOperator <$> .required "route_id" .text)
  | _ => none

/-- Reads an interaction. -/
def decoder : Decoder Interaction := .tagged "type" reader?

end Interaction

namespace SegmentAction

/-- Writes an action. -/
def toJson (a : SegmentAction) : Json :=
  .record [("id", .text a.id), ("segment", a.segment.toJson),
    ("interaction", a.interaction.toJson)]

/-- Writes an action in short, with coordinates that need not be finite. -/
def toShortJson (a : SegmentAction) : Json :=
  let point (c : Coordinates) : Json := .list [.namedDouble c.lat, .namedDouble c.lon]
  .record [("id", .text a.id), ("start", point a.segment.start), ("end", point a.segment.finish),
    ("interaction", a.interaction.toJson)]

/-- Reads an action. -/
def decoder : Decoder SegmentAction := .record <|
  SegmentAction.mk <$> .required "id" .text <*> .required "segment" Segment.decoder <*>
    .required "interaction" Interaction.decoder

end SegmentAction

end TripWatch
