import TripWatch.Guidance.Instruction
import TripWatch.Json.Value
import TripWatch.Number.Shortest

/-!
# Instructions as JSON

The written form of instructions: what an instruction is about, apart from its wording. Distances
are texts with six places.
-/

namespace TripWatch

/-- The word for a stage of getting off. -/
def GetOffStage.name : GetOffStage → String
  | soon => "soon"
  | nextStop => "next_stop"
  | here => "here"

/-- The stage of a word. -/
def GetOffStage.ofName? : String → Option GetOffStage
  | "soon" => some soon
  | "next_stop" => some nextStop
  | "here" => some here
  | _ => none

/-- Writes a distance. -/
def distanceToJson (d : Double) : Json := .text (d.fixedText 6)

/-- Writes a landmark. -/
def Landmark.toJson : Landmark → Json
  | turn relative absolute street =>
    .record [("step", .list [.text relative, .text absolute, .text street])]
  | destination name isFinal => .record [("destination", .text name), ("is_final", .bool isFinal)]

/-- Writes an instruction, with how long there is to wait. -/
def Instruction.toJson : Instruction → Calculation Json
  | onTrack o =>
    return .record [("kind", .text "on_track"), ("distance", distanceToJson o.distance),
      ("has_instruction", .bool o.hasInstruction), ("reference", o.landmark.toJson)]
  | deviated place =>
    return .record [("kind", .text "deviated"), ("reference_location", .text place)]
  | wait w => do
    let minutes ← w.minutesUntilDeparture
    return .record [("kind", .text "wait"), ("route", .text w.route),
      ("scheduled_departure", .ofWord w.scheduledDeparture),
      ("expected_departure", .ofWord w.expectedDeparture), ("now", .ofWord w.now),
      ("minutes", .int minutes)]
  | rideSummary durationSecs stops destination =>
    return .record [("kind", .text "summary"), ("duration_secs", .ofWord durationSecs),
      ("intermediate_stop_count", .ofNat stops), ("destination", .text destination)]
  | getOff stage stop =>
    return .record [("kind", .text "get_off"), ("stage", .text stage.name),
      ("stop_name", .text stop)]

end TripWatch
