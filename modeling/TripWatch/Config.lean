import TripWatch.Json.Decode
import TripWatch.Json.Value
import TripWatch.Tracking.Guide

/-!
# Configuration

The settings of the monitor, read from a file. Every setting may be left out; a setting that is not
known is refused, so that a misspelt one does not go unnoticed.

## Main definitions

* `Config`, `Config.standard` — the settings, and those that are taken without a file
* `Config.ofFile` — reads the content of a file; `ConfigFault` says why it could not
* `Config.guideSettings` — the settings for guiding travelers
-/

namespace TripWatch

open Json

namespace Radii

/-- Writes radii. -/
def toJson (r : Radii) : Json :=
  .record [("immediate_radius", .double r.immediate), ("upcoming_radius", .double r.upcoming)]

/-- Reads radii. -/
def decoder : Decoder Radii := .record <|
  Radii.mk <$> .withDefault "immediate_radius" Radii.standard.immediate .double <*>
    .withDefault "upcoming_radius" Radii.standard.upcoming .double

end Radii

/-- The zone of clocks where none is given. -/
def Zone.standard : Zone := ⟨"America/New_York", .yearly (-18000) ZoneTable.northAmerica⟩

/-- How far from the path a traveler may be, in metres. -/
def standardDeviationTolerance : Double := 15

/-- How far from an action's stretch a movement may be, in metres. -/
def standardSegmentTolerance : Double := 20

/-- The settings of the monitor. -/
structure Config where
  /-- Where the planner is. -/
  plannerUrl : String
  /-- How many seconds the planner may take. -/
  plannerTimeoutSecs : UInt64
  /-- How many seconds lie between rounds of checks. -/
  checkIntervalSecs : UInt64
  /-- The zone of local time. -/
  zone : Zone
  /-- How near landmarks have to be. -/
  radii : Radii
  /-- How far from the path a traveler may be. -/
  deviationTolerance : Double
  /-- How far from an action's stretch a movement may be. -/
  segmentTolerance : Double
  /-- The file with the actions on the way. -/
  actionsPath : Option String
  /-- Where interactions are posted. -/
  interactionEndpoint : Option String

/-- Why there is no configuration. -/
inductive ConfigFault where
  /-- The file could not be opened. -/
  | unopened (path : String)
  /-- The file holds no configuration. -/
  | unparsed (path : String) (fault : Fault)

/-- The wording of a fault. -/
def ConfigFault.message : ConfigFault → String
  | unopened path => "could not open config file " ++ path
  | unparsed path _ => "could not parse config file " ++ path

namespace Config

/-- The settings where nothing is given. -/
def standard : Config where
  plannerUrl := "http://localhost:8080/otp/routers/default"
  plannerTimeoutSecs := 10
  checkIntervalSecs := 60
  zone := .standard
  radii := .standard
  deviationTolerance := standardDeviationTolerance
  segmentTolerance := standardSegmentTolerance
  actionsPath := none
  interactionEndpoint := none

/-- Whether two configurations agree in every setting, numbers by value and zones by name. -/
def agrees (a b : Config) : Bool :=
  a.plannerUrl == b.plannerUrl && a.plannerTimeoutSecs == b.plannerTimeoutSecs &&
    a.checkIntervalSecs == b.checkIntervalSecs && a.zone.name == b.zone.name &&
    a.radii == b.radii && a.deviationTolerance == b.deviationTolerance &&
    a.segmentTolerance == b.segmentTolerance && a.actionsPath == b.actionsPath &&
    a.interactionEndpoint == b.interactionEndpoint

/-- Writes a configuration. -/
def toJson (c : Config) : Json :=
  .record [("planner_url", .text c.plannerUrl),
    ("planner_timeout_secs", .ofNat c.plannerTimeoutSecs.toNat),
    ("check_interval_secs", .ofNat c.checkIntervalSecs.toNat), ("time_zone", .text c.zone.name),
    ("thresholds", c.radii.toJson), ("deviation_tolerance_meters", .double c.deviationTolerance),
    ("segment_match_tolerance_meters", .double c.segmentTolerance),
    ("segment_actions_path", .ofText? c.actionsPath),
    ("interaction_endpoint", .ofText? c.interactionEndpoint)]

/-- Reads a configuration. -/
def decoder : Decoder Config := .strictRecord <|
  Config.mk <$> .withDefault "planner_url" standard.plannerUrl .text <*>
    .withDefault "planner_timeout_secs" standard.plannerTimeoutSecs .unsigned64 <*>
    .withDefault "check_interval_secs" standard.checkIntervalSecs .unsigned64 <*>
    .withDefault "time_zone" standard.zone (.textThat Zone.named?) <*>
    .withDefault "thresholds" standard.radii Radii.decoder <*>
    .withDefault "deviation_tolerance_meters" standard.deviationTolerance .double <*>
    .withDefault "segment_match_tolerance_meters" standard.segmentTolerance .double <*>
    .optional "segment_actions_path" .text <*> .optional "interaction_endpoint" .text

/-- Reads the content of a file, if there is one. -/
def ofFile (path : String) : Option String → Except ConfigFault Config
  | none => .error (.unopened path)
  | some content => (decode decoder content).mapError (.unparsed path)

/-- The settings for guiding travelers. -/
def guideSettings (c : Config) : GuideSettings :=
  ⟨c.radii, c.deviationTolerance, c.segmentTolerance, c.zone⟩

end Config

end TripWatch
