import TripWatch.Guidance.Instruction
import TripWatch.Tracking.Journey

/-!
# Choosing instructions

What a traveler is told at a place and time. On a leg that is ridden the nearest stop decides, on a
leg along streets the next step, unless the traveler has left the path.

## Main definitions

* `GuideSettings` — how near is near
* `activeLeg?` — the leg that a traveler is on
* `rideInstruction?`, `streetInstruction` — the two kinds of legs
* `guide` — the instruction and the cursor afterwards
-/

namespace TripWatch

/-- How travelers are guided. -/
structure GuideSettings where
  /-- How near a landmark has to be. -/
  radii : Radii
  /-- How far from the path a traveler may be. -/
  deviationTolerance : Double
  /-- How far from an action's stretch a movement may be. -/
  segmentTolerance : Double
  /-- The zone of the clocks that travelers see. -/
  zone : Zone

/-- The leg that a traveler is on: the first one that has not ended, or else the last one. -/
def activeLeg? (legs : List Leg) (now : Instant) : Option Nat :=
  match legs.findIdx? fun leg => decide (now ≤ leg.endTime) with
  | some index => some index
  | none => if legs = [] then none else some (legs.length - 1)

/-- The index of the least distance; the first one of several. -/
def nearestIndex? (distances : List Double) : Option Nat :=
  (nearestBy? Prod.fst distances.zipIdx).map Prod.snd

/-- What is said to a rider who is nearest to a stop, outside of the alighting radius. -/
def rideInstructionAt (leg : Leg) (nearest : Nat) : Calculation (Option Instruction) :=
  let remaining := leg.stops.length - 1 - nearest
  if remaining ≤ 1 then return some (.getOff .nextStop leg.destination.name)
  else if remaining = 2 then return some (.getOff .soon leg.destination.name)
  else if nearest = 0 then do
    let duration ← leg.durationSecs
    return some (.rideSummary duration leg.intermediateStops.length leg.destination.name)
  else return none

/-- The instruction on a leg that is ridden. -/
def rideInstruction? (leg : Leg) (here : Coordinates) (now : Instant) (s : GuideSettings) :
    Calculation (Option Instruction) :=
  if now < leg.startTime then do
    let scheduled ← leg.scheduledStart
    return some (.wait ⟨leg.routeLabel, scheduled, leg.startTime, now, s.zone⟩)
  else if here.distance leg.destination.coordinates ≤ s.radii.upcoming then
    return some (.getOff .here leg.destination.name)
  else match nearestIndex? (leg.stops.map here.distance) with
    | none => return none
    | some nearest => rideInstructionAt leg nearest

/-- Whether a traveler has left the path of a leg. -/
def isOffPath (leg : Leg) (here : Coordinates) (s : GuideSettings) : Bool :=
  (pathDistance? here leg.path).any fun distance => decide (s.deviationTolerance < distance)

/-- The instruction on a leg along streets, with the cursor on that leg. A step that is reached is
left behind. -/
def streetInstruction (leg : Leg) (isFinal : Bool) (cursor : Cursor) (here : Coordinates)
    (s : GuideSettings) : Instruction × Cursor :=
  let next? := leg.steps[cursor.step]?
  if isOffPath leg here s then
    (.deviated ((next?.map Step.streetName).getD leg.destination.name), cursor)
  else
    match next? with
    | some step =>
      let distance := here.distance step.coordinates
      (.onTrack ⟨distance, s.radii,
          .turn step.relativeDirection step.absoluteDirection step.streetName⟩,
        if distance ≤ s.radii.immediate then cursor.advance cursor.leg else cursor)
    | none =>
      (.onTrack ⟨here.distance leg.destination.coordinates, s.radii,
        .destination leg.destination.name isFinal⟩, cursor)

/-- The instruction at a place and time, and the cursor afterwards. The cursor moves on legs along
streets only, where nothing is calculated with times, so it does not wait for the instruction. -/
def guide (i : Itinerary) (cursor : Cursor) (here : Coordinates) (now : Instant)
    (s : GuideSettings) : Calculation (Option Instruction) × Cursor :=
  match activeLeg? i.legs now with
  | none => (return none, cursor)
  | some index =>
    match i.legs[index]? with
    | none => (return none, cursor)
    | some leg =>
      if leg.isTransit then (rideInstruction? leg here now s, cursor)
      else
        let (instruction, cursor) :=
          streetInstruction leg (index + 1 == i.legs.length) (cursor.onLeg index) here s
        (return some instruction, cursor)

end TripWatch
