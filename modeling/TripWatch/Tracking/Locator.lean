import TripWatch.Action.Codec
import TripWatch.Journey.Codec
import TripWatch.Store.Table
import TripWatch.Tracking.Guide

/-!
# Following travelers

Each position that a traveler reports may start an action and is answered by an instruction.

## Main definitions

* `Locator.locate` — takes in a position
* `Registry` — the journeys that are followed, by trip
* `Registry.getOrStart`, `Registry.evictStale` — begins a journey, and forgets those that are over
-/

namespace TripWatch

/-- What a traveler is answered. -/
structure LocateResult where
  /-- The instruction in the traveler's language. -/
  instruction : String
  /-- What is known of the trip. -/
  status : TripStatus

/-- Writes an answer. -/
def LocateResult.toJson (r : LocateResult) : Json :=
  .record [("instruction", .text r.instruction), ("tripStatus", r.status.toJson)]

/-- How positions are taken in. -/
structure Locator where
  /-- How travelers are guided. -/
  settings : GuideSettings
  /-- The actions on the way. -/
  actions : List SegmentAction

/-- What a position brings about. -/
structure Located where
  /-- The answer. A request gets none where this does not fit. -/
  result : Calculation LocateResult
  /-- The journey afterwards. -/
  journey : Journey
  /-- The action that was started. -/
  fired : Option SegmentAction

namespace Locator

/-- The action that the last movement of a journey starts, and the journey afterwards. -/
def fireOnMovement (l : Locator) (j : Journey) : Option SegmentAction × Journey :=
  match j.movement? with
  | none => (none, j)
  | some movement =>
    let (fired, started) := fire movement l.actions l.settings.segmentTolerance j.started
    (fired, { j with started := started })

/-- Takes in a position. -/
def locate (l : Locator) (j : Journey) (p : Position) (locale : Locale) : Located :=
  let (fired, j) := l.fireOnMovement (j.addPosition p)
  let (instruction, cursor) := guide j.itinerary j.cursor p.coordinates p.timestamp l.settings
  { result := do
      let told? ← instruction
      let wording ← Instruction.wording told? locale
      return { instruction := wording, status := .ofItinerary p.timestamp j.itinerary }
    journey := { j with cursor := cursor }
    fired := fired }

end Locator

/-- The journeys that are followed, by trip. -/
abbrev Registry := Table Journey

namespace Registry

/-- The journey of a trip along an itinerary: the one that is followed, unless that is along another
itinerary, or else a new one. -/
def getOrStart (r : Registry) (tripId userId : String) (i : Itinerary) : Journey :=
  match r.get? tripId with
  | some j => if j.itinerary == i then j else .new tripId userId i
  | none => .new tripId userId i

/-- The registry with a journey under its trip. -/
def put (r : Registry) (j : Journey) : Registry := r.insert j.tripId j

/-- The registry without the journeys that are over, and how many these are. -/
def evictStale (r : Registry) (now : Instant) : Registry × Nat :=
  let kept := r.filter fun _ j => !j.isStale now
  (kept, r.size - kept.size)

end Registry

end TripWatch
