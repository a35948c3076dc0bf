import TripWatch.Geo.Ruler
import TripWatch.Number.Double

/-!
# Distances on the earth

Distances in metres between coordinates, and from a coordinate to straight stretches, which are
measured in the plane that touches the earth at that coordinate.

## Main definitions

* `Coordinates`, `Segment` — a place and a straight stretch between two places
* `Coordinates.distance` — along a great circle
* `onEarth` — the ruler for coordinates
* `Segment.distanceFrom` — from a place to the nearest point of a stretch
* `Segment.proximity` — how far the farther end of a stretch is from another stretch
* `pathDistance?` — to the nearest piece of a path
* `nearestBy?` — the first item of a list at the least distance
-/

namespace TripWatch

/-- A place, in degrees. -/
structure Coordinates where
  /-- Degrees to the north. -/
  lat : Double
  /-- Degrees to the east. -/
  lon : Double
  deriving BEq, Inhabited

/-- A straight stretch between two places, in travel order. -/
structure Segment where
  /-- Where it begins. -/
  start : Coordinates
  /-- Where it ends. -/
  finish : Coordinates
  deriving BEq, Inhabited

/-- The radius of the earth in metres. -/
def earthRadius : Double := 6371000

/-- The angle of one degree. -/
def radiansPerDegree : Double := 0.017453292519943295

/-- An angle in radians. -/
def radians (degrees : Double) : Double := degrees * radiansPerDegree

/-- The square of a number. -/
def square (d : Double) : Double := d * d

/-- The distance of two places along a great circle, by the haversine formula. -/
def haversine (lat₁ lon₁ lat₂ lon₂ : Double) : Double :=
  let rise := radians (lat₂ - lat₁)
  let run := radians (lon₂ - lon₁)
  let a := square (rise / 2).sin +
    (radians lat₁).cos * (radians lat₂).cos * square (run / 2).sin
  earthRadius * (2 * a.sqrt.asin)

namespace Coordinates

/-- The distance of two places along a great circle. -/
def distance (a b : Coordinates) : Double := haversine a.lat a.lon b.lat b.lon

/-- A place in the plane that touches the earth at `origin`, in metres. -/
def project (origin p : Coordinates) : Plane.Point Double where
  x := radians (p.lon - origin.lon) * (radians origin.lat).cos * earthRadius
  y := radians (p.lat - origin.lat) * earthRadius

end Coordinates

/-- The ruler for coordinates. The nearer one of two distances is looked for in the total order of
doubles, the farther one among numbers: there a NaN gives way. -/
def onEarth : Ruler Coordinates Double Double where
  project := Coordinates.project
  root := Double.sqrt
  between := Coordinates.distance
  nearer d e := if e.totalKey < d.totalKey then e else d
  farther := Double.max

namespace Segment

/-- The two ends of a stretch. -/
def ends (s : Segment) : Coordinates × Coordinates := (s.start, s.finish)

/-- The distance from a place to the nearest point of a stretch. -/
def distanceFrom (p : Coordinates) (s : Segment) : Double := onEarth.toStretch p s.ends

/-- How far the farther end of a stretch is from another stretch. -/
def proximity (query reference : Segment) : Double := onEarth.proximity query.ends reference.ends

end Segment

/-- The distance from a place to a path: to its nearest piece, or to its only point. -/
def pathDistance? (p : Coordinates) (path : List Coordinates) : Option Double :=
  onEarth.toPath? p path

/-! ### The nearest of several -/

/-- The item at the least distance in the total order of doubles; the first one of several. -/
def nearestBy? {α : Type} (distance : α → Double) : List α → Option α
  | [] => none
  | a :: rest =>
    match nearestBy? distance rest with
    | none => some a
    | some b => if (distance b).totalKey < (distance a).totalKey then some b else some a

end TripWatch
