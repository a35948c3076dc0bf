import TripWatch.Geo.Distance

/-!
# Actions on the way

An action belongs to a stretch of street: when a traveler moves along it, something else is told,
such as a signal at a crossing.

## Main definitions

* `Interaction`, `SegmentAction` — what is switched on, and where
* `matchingAction?` — the action whose stretch is nearest to a movement
* `fire` — the action that a movement starts, at most once each
-/

namespace TripWatch

/-- What is told, and whom. -/
inductive Interaction where
  /-- A signal for pedestrians. -/
  | pedestrianSignal (signalId : String)
  /-- The operator of a bus on a route. -/
  | busOperator (routeId : String)
  deriving DecidableEq

namespace Interaction

/-- The word for a kind of interaction. -/
def kind : Interaction → String
  | pedestrianSignal _ => "pedestrian_signal"
  | busOperator _ => "bus_operator"

/-- The interaction of a kind with a target. -/
def ofKind? (kind target : String) : Option Interaction :=
  match kind with
  | "pedestrian_signal" => some (pedestrianSignal target)
  | "bus_operator" => some (busOperator target)
  | _ => none

end Interaction

/-- An action and the stretch that it belongs to. -/
structure SegmentAction where
  /-- The action's identifier. -/
  id : String
  /-- The stretch. -/
  segment : Segment
  /-- What is done. -/
  interaction : Interaction
  deriving BEq

/-- The action whose stretch is nearest to a movement, if it is within the tolerance; the first one
of several. -/
def matchingAction? (movement : Segment) (actions : List SegmentAction) (tolerance : Double) :
    Option SegmentAction :=
  nearestBy? (fun a => movement.proximity a.segment) <|
    actions.filter fun a => decide (movement.proximity a.segment ≤ tolerance)

/-- The action that a movement starts, with the identifiers of all actions started so far. An action
that was started before is not started again, and no other one instead of it. -/
def fire (movement : Segment) (actions : List SegmentAction) (tolerance : Double)
    (started : List String) : Option SegmentAction × List String :=
  match matchingAction? movement actions tolerance with
  | none => (none, started)
  | some a => if a.id ∈ started then (none, started) else (some a, a.id :: started)

end TripWatch
