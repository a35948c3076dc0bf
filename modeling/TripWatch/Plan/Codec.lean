import TripWatch.Plan.Basic
import TripWatch.Itinerary.Codec

/-!
# Planner responses as JSON

The writer and reader of what the planner answers.
-/

namespace TripWatch

open Json

namespace RefusalBody

/-- Writes a refusal. -/
def toJson (b : RefusalBody) : Json :=
  .record [("id", .ofOption .int b.id), ("msg", .ofText? b.msg), ("message", .ofText? b.message)]

/-- Reads a refusal; its number has 32 bits. -/
def decoder : Decoder RefusalBody := .record <|
  RefusalBody.mk <$> .optional "id" (.intWithin Int32.minValue.toInt Int32.maxValue.toInt) <*>
    .optional "msg" .text <*> .optional "message" .text

end RefusalBody

namespace PlanResponse

/-- Writes the itineraries of a plan. -/
def planToJson (itineraries : List Itinerary) : Json :=
  .record [("itineraries", .ofList Itinerary.toJson itineraries)]

/-- Reads the itineraries of a plan. -/
def planDecoder : Decoder (List Itinerary) := .record <|
  .withDefault "itineraries" [] (.list Itinerary.decoder)

/-- Writes a response. -/
def toJson (r : PlanResponse) : Json :=
  .record [("plan", .ofOption planToJson r.plan), ("error", .ofOption RefusalBody.toJson r.refusal)]

/-- Reads a response. -/
def decoder : Decoder PlanResponse := .record <|
  PlanResponse.mk <$> .optional "plan" planDecoder <*> .optional "error" RefusalBody.decoder

end PlanResponse

end TripWatch
