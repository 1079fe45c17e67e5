import Georef.Scalar

/-!
# Points

Positions of two coordinates. Geographic ones are degrees with the longitude positive to the east;
grid files count in arc-seconds with the longitude positive to the west.
-/

namespace Georef

/-- A position. On the ground `x` is the longitude or easting, and `y` the latitude or northing. -/
structure Point (α : Type) where
  x : α
  y : α
  deriving DecidableEq, Repr

/-- A geographic position in arc-seconds, the longitude positive to the west. -/
structure ArcPoint (α : Type) where
  lon : α
  lat : α
  deriving DecidableEq, Repr

/-- The number of arc-seconds in a degree. -/
def secondsPerDegree {α : Type} [Scalar α] : α :=
  Scalar.ofNat 3600

/-- A position in degrees as arc-seconds. -/
def Point.toArc {α : Type} [Scalar α] (point : Point α) : ArcPoint α where
  lon := -point.x * secondsPerDegree
  lat := point.y * secondsPerDegree

/-- A position in arc-seconds as degrees. -/
def ArcPoint.toPoint {α : Type} [Scalar α] (arc : ArcPoint α) : Point α where
  x := -arc.lon / secondsPerDegree
  y := arc.lat / secondsPerDegree

end Georef
