/-!
# Points of a plane and straight pieces between them

The distance from the origin to a straight piece, over any numbers that have the four operations
and an order. Used with doubles it is the distance that is computed; used with an ordered field it
is the true minimum over the piece.

## Main definitions

* `Plane.Point` — a point by its two coordinates; `Point.squaredLength` is the squared distance from
  the origin
* `Plane.nearestParameter` — where on a piece the point nearest to the origin lies, from 0 at its
  start to 1 at its end
* `Plane.pointAt` — the point of a piece at a parameter
-/

namespace TripWatch.Plane

/-- A point of the plane. -/
structure Point (α : Type) where
  /-- The coordinate to the east. -/
  x : α
  /-- The coordinate to the north. -/
  y : α

section

variable {α : Type} [Add α] [Sub α] [Mul α] [Div α] [Neg α] [OfNat α 0] [OfNat α 1] [LT α]
  [DecidableLT α] [BEq α]

/-- The squared distance from the origin. -/
def Point.squaredLength (p : Point α) : α := p.x * p.x + p.y * p.y

/-- The nearest number from 0 to 1. -/
def clampUnit (t : α) : α := if t < 0 then 0 else if 1 < t then 1 else t

/-- The squared length of a piece. -/
def squaredSpan (a b : Point α) : α :=
  let dx := b.x - a.x
  let dy := b.y - a.y
  dx * dx + dy * dy

/-- Where on the piece from `a` to `b` the point nearest to the origin lies: at 0 on a piece without
length, and else where the piece meets its perpendicular through the origin, or at the end that is
nearer to that place. -/
def nearestParameter (a b : Point α) : α :=
  let dx := b.x - a.x
  let dy := b.y - a.y
  if squaredSpan a b == 0 then 0
  else clampUnit (-(a.x * dx + a.y * dy) / squaredSpan a b)

/-- The point of the piece from `a` to `b` at a parameter. -/
def pointAt (a b : Point α) (t : α) : Point α :=
  let dx := b.x - a.x
  let dy := b.y - a.y
  ⟨a.x + dx * t, a.y + dy * t⟩

/-- The point of the piece that is nearest to the origin. -/
def nearestPoint (a b : Point α) : Point α := pointAt a b (nearestParameter a b)

end

end TripWatch.Plane
