import Georef.Point
import Georef.Raster

/-!
# Affine maps

The map from pixels to the ground of an image, and back. Pixel positions are counted from the upper
left corner of the image, so an image of a given size reaches from zero to its width and height.

* `Affine.apply`, `Affine.invert?`: from pixels to the ground and back.
* `Affine.boundingBox`: the smallest rectangle around the image of the four corners.
-/

namespace Georef

/-- The map `x = a + b * column + c * row`, `y = d + e * column + f * row`. -/
structure Affine (α : Type) where
  a : α
  b : α
  c : α
  d : α
  e : α
  f : α
  deriving DecidableEq, Repr

namespace Affine

variable {α : Type} [Scalar α]

/-- The ground position of a pixel position. -/
def apply (map : Affine α) (pixel : Point α) : Point α where
  x := map.a + map.b * pixel.x + map.c * pixel.y
  y := map.d + map.e * pixel.x + map.f * pixel.y

/-- The determinant below which a map counts as not invertible. -/
def leastDeterminant : α :=
  Scalar.decimal 1 10

def determinant (map : Affine α) : α :=
  map.b * map.f - map.c * map.e

/-- The pixel position of a ground position. -/
def invert? (map : Affine α) (ground : Point α) : Option (Point α) :=
  let determinant := map.determinant
  if Scalar.lt (Scalar.abs determinant) leastDeterminant then none
  else
    let dx := ground.x - map.a
    let dy := ground.y - map.d
    some {
      x := (map.f * dx - map.c * dy) / determinant
      y := (-map.e * dx + map.b * dy) / determinant }

/-- The corners of an image in pixels. -/
def corners (size : Dimensions) : List (Point α) :=
  let zero : α := Scalar.ofNat 0
  let width : α := Scalar.ofNat size.width
  let height : α := Scalar.ofNat size.height
  [⟨zero, zero⟩, ⟨width, zero⟩, ⟨zero, height⟩, ⟨width, height⟩]

/-- The smallest rectangle around the corners of an image. -/
def boundingBox (map : Affine α) (size : Dimensions) : Extent α :=
  -- a turned image reaches out to any of its corners, so all four are looked at
  let images := (corners size).map map.apply
  let xs := images.map Point.x
  let ys := images.map Point.y
  { west := Scalar.least xs
    south := Scalar.least ys
    east := Scalar.greatest xs
    north := Scalar.greatest ys }

end Affine

end Georef
