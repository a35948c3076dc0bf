import TripWatch.Trip.Locale
import TripWatch.Calendar.LocalTime
import TripWatch.Number.Calculation
import TripWatch.Number.Double

/-!
# Instructions for travelers

What a traveler is told on the way, and its wording in each language.

## Main definitions

* `Instruction` — the kinds of instructions
* `Instruction.render` — the wording; an instruction on a turn that is too far off renders as
  `noInstruction`
* `Wait.minutesUntilDeparture`, `Wait.status` — how long to wait, and how late the vehicle is
-/

namespace TripWatch

/-- What is said when there is nothing to say. -/
def noInstruction : String := "NO_INSTRUCTION"

/-- How near a traveler has to be to the place that an instruction is about. -/
structure Radii where
  /-- Within this distance the instruction is for now. -/
  immediate : Double
  /-- Beyond this distance there is no instruction. -/
  upcoming : Double
  deriving BEq

/-- Two metres and ten metres. -/
def Radii.standard : Radii := ⟨2, 10⟩

/-! ### On foot -/

/-- What an instruction on the way is about. -/
inductive Landmark where
  /-- A turn into a street. -/
  | turn (relativeDirection absoluteDirection streetName : String)
  /-- The end of the leg, which may be that of the trip. -/
  | destination (name : String) (isFinal : Bool)
  deriving DecidableEq

namespace Landmark

/-- Whether it is the end of the trip. -/
def isJourneyEnd : Landmark → Bool
  | turn .. => false
  | destination _ isFinal => isFinal

/-- The wording of what to do there. -/
def body : Landmark → Locale → String
  | destination name _, _ => name
  | turn "DEPART" heading street, .english =>
    "Head " ++ absoluteDirection heading .english ++ " on " ++ street
  | turn "DEPART" heading street, .spanish =>
    "Diríjase al " ++ absoluteDirection heading .spanish ++ " por " ++ street
  | turn direction _ street, .english => relativeDirection direction .english ++ " on " ++ street
  | turn direction _ street, .spanish => relativeDirection direction .spanish ++ " en " ++ street

end Landmark

/-- An instruction for a traveler who is on the path. -/
structure OnTrack where
  /-- How far the landmark is, in metres. -/
  distance : Double
  /-- How near it has to be. -/
  radii : Radii
  /-- What the instruction is about. -/
  landmark : Landmark

namespace OnTrack

/-- Whether the landmark is near enough for an instruction. -/
def hasInstruction (o : OnTrack) : Bool := decide (o.distance ≤ o.radii.upcoming)

/-- When to follow the instruction. -/
def urgency (o : OnTrack) : String :=
  if o.distance ≤ o.radii.immediate then
    if o.landmark.isJourneyEnd then "ARRIVED:" else "IMMEDIATE:"
  else "UPCOMING:"

/-- The wording. -/
def render (o : OnTrack) (locale : Locale) : String :=
  if o.hasInstruction then o.urgency ++ " " ++ o.landmark.body locale else noInstruction

end OnTrack

/-! ### Waiting -/

/-- An instruction to wait for a vehicle. -/
structure Wait where
  /-- What riders call the route. -/
  route : String
  /-- When the vehicle is scheduled to leave. -/
  scheduledDeparture : Instant
  /-- When it is estimated to leave. -/
  expectedDeparture : Instant
  /-- The present. -/
  now : Instant
  /-- The zone of the clocks at the stop. -/
  zone : Zone

namespace Wait

/-- Full minutes until the scheduled departure; negative as soon as it is over. -/
def minutesUntilDeparture (w : Wait) : Calculation Int := do
  let gap ← .perform (.difference w.scheduledDeparture w.now)
  return gap.toInt / 60000

/-- How late or early the vehicle is. Up to a full minute either way is on time. -/
def status (w : Wait) (locale : Locale) : Calculation String := do
  let offset ← .perform (.difference w.expectedDeparture w.scheduledDeparture)
  let distance ← .perform (.magnitude offset)
  let phrase? := if 60000 < distance then minutesPhrase? (distance / 60000).toInt locale else none
  return match phrase?, locale with
    | none, .english => "on time"
    | none, .spanish => "a tiempo"
    | some phrase, .english => phrase ++ if 0 < offset then " late" else " early"
    | some phrase, .spanish => phrase ++ if 0 < offset then " tarde" else " antes"

/-- The scheduled departure by the clock; nothing beyond the range of dates. -/
def clockText (w : Wait) (locale : Locale) : String :=
  if LocalTime.isDated w.scheduledDeparture then
    let time := LocalTime.timeOfDay w.zone w.scheduledDeparture
    match locale with
    | .english => time.halfDayText
    | .spanish => time.shortText
  else ""

/-- The wording. -/
def render (w : Wait) (locale : Locale) : Calculation String := do
  let minutes ← w.minutesUntilDeparture
  let phrase := match minutesPhrase? minutes locale with
    | some phrase => " " ++ phrase
    | none => ""
  let status ← w.status locale
  return match locale with
    | .english =>
      "Wait" ++ phrase ++ " for your bus, route " ++ w.route ++ ", scheduled at " ++
        w.clockText locale ++ ", " ++ status
    | .spanish =>
      "Espere" ++ phrase ++ " su autobús, ruta " ++ w.route ++ ", programado a las " ++
        w.clockText locale ++ ", " ++ status

end Wait

/-! ### Riding -/

/-- How close the alighting stop is. -/
inductive GetOffStage where
  | soon
  | nextStop
  | here
  deriving DecidableEq, Repr

/-- An instruction for a traveler. -/
inductive Instruction where
  /-- On the path, towards a landmark. -/
  | onTrack (o : OnTrack)
  /-- Off the path: back to a place. -/
  | deviated (place : String)
  /-- Wait for a vehicle. -/
  | wait (w : Wait)
  /-- Just boarded: how long the ride is and where it goes. -/
  | rideSummary (durationSecs : Int64) (intermediateStops : Nat) (destination : String)
  /-- Prepare to leave the vehicle. -/
  | getOff (stage : GetOffStage) (stop : String)

namespace Instruction

/-- The wording of a ride in full minutes and stops, the alighting stop included. -/
def renderRide (durationSecs : Int64) (intermediateStops : Nat) (destination : String)
    (locale : Locale) : String :=
  let minutes := toString (max durationSecs.toInt 0 / 60)
  let stops := toString (intermediateStops + 1)
  match locale with
  | .english => "Ride " ++ minutes ++ " min / " ++ stops ++ " stops to " ++ destination
  | .spanish => "Viaje " ++ minutes ++ " min / " ++ stops ++ " paradas hasta " ++ destination

/-- The wording of leaving the vehicle. -/
def renderGetOff (stage : GetOffStage) (stop : String) (locale : Locale) : String :=
  let phrase := match stage, locale with
    | .here, .english => "Get off here"
    | .nextStop, .english => "Get off at the next stop"
    | .soon, .english => "Get off soon"
    | .here, .spanish => "Bájese aquí"
    | .nextStop, .spanish => "Bájese en la próxima parada"
    | .soon, .spanish => "Prepárese para bajar"
  phrase ++ " (" ++ stop ++ ")"

/-- The wording of an instruction. -/
def render (i : Instruction) (locale : Locale) : Calculation String :=
  match i with
  | onTrack o => return o.render locale
  | deviated place =>
    match locale with
    | .english => return "Head to " ++ place
    | .spanish => return "Diríjase a " ++ place
  | wait w => w.render locale
  | rideSummary durationSecs intermediateStops destination =>
    return renderRide durationSecs intermediateStops destination locale
  | getOff stage stop => return renderGetOff stage stop locale

/-- The wording of what there is to say. -/
def wording (told? : Option Instruction) (locale : Locale) : Calculation String :=
  match told? with
  | some i => i.render locale
  | none => return noInstruction

end Instruction

end TripWatch
