import TripWatch.Geo.Plane

/-!
# Rulers

How far a place is from a straight stretch, how far a stretch strays from another one, and how far
a place is from a path. None of this depends on what places are, on the ground they lie on or on how
exactly distances are kept: it is said once for any ruler. The ruler for coordinates measures in
doubles; one with the numbers of an ordered field measures without rounding.

## Main definitions

* `Ruler` — how places lie in the plane, and how distances are kept and compared
* `Ruler.toStretch` — from a place to the nearest point of a stretch
* `Ruler.proximity` — how far the farther end of a stretch is from another stretch
* `Ruler.toPath?` — from a place to the nearest piece of a path
-/

namespace TripWatch

/-- A way of measuring distances between places. A stretch is measured in the plane that touches the
ground at the place it is measured from. -/
structure Ruler (P α δ : Type) where
  /-- A place in the plane that touches the ground at `origin`. -/
  project (origin p : P) : Plane.Point α
  /-- The distance with a given square. -/
  root : α → δ
  /-- The distance of two places along the ground. -/
  between : P → P → δ
  /-- The lesser of two distances; the first one if they are alike. -/
  nearer : δ → δ → δ
  /-- The greater of two distances. -/
  farther : δ → δ → δ

/-- The pieces of a path, in order. -/
def pieces {P : Type} : List P → List (P × P)
  | a :: b :: rest => (a, b) :: pieces (b :: rest)
  | _ => []

namespace Ruler

variable {P α δ : Type} [Add α] [Sub α] [Mul α] [Div α] [Neg α] [OfNat α 0] [OfNat α 1] [LT α]
  [DecidableLT α] [BEq α] (r : Ruler P α δ)

/-- The distance from a place to the nearest point of the stretch between two others. -/
def toStretch (p : P) (stretch : P × P) : δ :=
  r.root (Plane.nearestPoint (r.project p stretch.1) (r.project p stretch.2)).squaredLength

/-- How far the farther end of a stretch is from another stretch. -/
def proximity (query reference : P × P) : δ :=
  r.farther (r.toStretch query.1 reference) (r.toStretch query.2 reference)

/-- The least of several distances. -/
def least? : List δ → Option δ
  | [] => none
  | d :: rest => some (rest.foldl r.nearer d)

/-- The distance from a place to a path: to its nearest piece, or to its only point. An empty path
is nowhere. -/
def toPath? (p : P) : List P → Option δ
  | [] => none
  | [single] => some (r.between p single)
  | path => r.least? ((pieces path).map (r.toStretch p))

end Ruler

end TripWatch
