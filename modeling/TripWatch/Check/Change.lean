import TripWatch.Journey.State

/-!
# What has changed

Comparison of an itinerary with the one that was found before, and of an estimated time with the
one that the rider was last told.

## Main definitions

* `unseenAlerts`, `alertNotification?` — alerts that were not there before
* `checkDelay` — whether an estimated time has moved far enough from the baseline to be told; if so
  it becomes the baseline
* `shapeNotification?` — whether the legs are other ones than before
-/

namespace TripWatch

/-! ### Alerts -/

/-- The current alerts that are not among the previous ones. -/
def unseenAlerts (previous current : List Alert) : List Alert :=
  current.filter fun a => a ∉ previous

/-- The text on several alerts: a line for each. -/
def alertText (alerts : List Alert) : String :=
  alerts.foldl (fun text a => text ++ "\n- " ++ a.summary) "New alerts for your trip:"

/-- A notification of the alerts that the previous itinerary did not have. -/
def alertNotification? (previous : Option Itinerary) (current : Itinerary) : Option Notification :=
  let before := match previous with
    | some i => i.alerts
    | none => []
  match unseenAlerts before current.alerts with
  | [] => none
  | unseen => some ⟨.alert, alertText unseen⟩

/-! ### Delays -/

/-- Which end of a trip is late. -/
inductive DelayKind where
  | departure
  | arrival
  deriving DecidableEq, Repr

namespace DelayKind

/-- The word for it in messages. -/
def verb : DelayKind → String
  | departure => "depart"
  | arrival => "arrive"

/-- What a notification of it is about. -/
def notificationKind : DelayKind → NotificationKind
  | departure => .departureDelay
  | arrival => .arrivalDelay

end DelayKind

/-- How late or early an estimated time is, in words. -/
def varianceText (current scheduled : Instant) : Calculation String := do
  let offset ← .perform (.difference current scheduled)
  let distance ← .perform (.magnitude offset)
  return match minutesPhrase? (distance / 60000).toInt .english with
    | some phrase => phrase ++ if 0 < offset then " late" else " early"
    | none => "on time"

/-- The notification of an estimated time. -/
def delayNotification (kind : DelayKind) (current scheduled : Instant) :
    Calculation Notification := do
  let variance ← varianceText current scheduled
  return ⟨kind.notificationKind,
    "Your trip is now predicted to " ++ kind.verb ++ " " ++ variance ++ "."⟩

/-- A threshold in milliseconds. -/
def thresholdMillis (minutes : UInt32) : Calculation Int64 :=
  .perform (.product minutes.toUInt64.toInt64 60000)

/-- Compares an estimated time with the baseline, which is the scheduled time at first. A time that
has moved by the threshold or more is told and becomes the baseline; a time that has not moved is
never told. -/
def checkDelay (kind : DelayKind) (current scheduled : Instant) (baseline : Option Instant)
    (threshold : UInt32) : Calculation (Option Notification × Instant) := do
  let reference := baseline.getD scheduled
  let difference ← .perform (.difference current reference)
  let deviation ← .perform (.magnitude difference)
  let limit ← thresholdMillis threshold
  if deviation = 0 ∨ deviation < limit then return (none, reference)
  else
    let notification ← delayNotification kind current scheduled
    return (some notification, current)

/-! ### Legs -/

/-- A notification that the legs are other ones than before, with the routes that are now used. -/
def shapeNotification? (previous : Option Itinerary) (current : Itinerary) : Option Notification :=
  match previous with
  | none => none
  | some before =>
    if before.signatures = current.signatures then none
    else
      let routes := (current.legs.filter Leg.isTransit).map Leg.routeLabel
      some ⟨.itineraryChanged,
        if routes = [] then "Your itinerary has changed."
        else "Your itinerary has changed. It now uses route " ++ ", ".intercalate routes ++ "."⟩

end TripWatch
