import Georef.GridFile.File

/-!
# Grid shifts

A grid shift moves points in degrees from one datum to another, by the shift that its files give at
the point; the first file with a sub-grid at the point is used. The inverse shift looks for the
point that is moved to a given one: starting from the given point, it corrects its estimate by what
the forward shift misses, until the miss is small enough or the steps run out. An estimate that
leaves the sub-grids ends the search with the last correction.

* `GridShift.forward?`, `GridShift.inverse?`, `GridShift.shifted?`: the moved point; none where no
  sub-grid is.
* `GridShift.value?`: the shift at a point in arc-seconds.
-/

namespace Georef

/-- The direction of a shift. -/
inductive Direction where
  | forward
  | inverse
  deriving DecidableEq, Repr

/-- The opposite direction. -/
def Direction.opposite : Direction → Direction
  | forward => inverse
  | inverse => forward

/-- Grid files in the order in which they are searched, with a direction. -/
structure GridShift (α : Type) where
  files : List (GridFile α)
  direction : Direction := .forward

namespace GridShift

/-- The same files in the opposite direction. -/
def reversed {α : Type} (shift : GridShift α) : GridShift α :=
  { shift with direction := shift.direction.opposite }

/-- A short description. -/
def name {α : Type} (shift : GridShift α) : String :=
  let names := String.intercalate "," (shift.files.map GridFile.name)
  match shift.direction with
  | .forward => s!"grid shift {names}"
  | .inverse => s!"inverse grid shift {names}"

variable {α : Type} [Scalar α]

/-- The shift at a point. -/
def valueAt? (shift : GridShift α) (point : ArcPoint α) : Option (GridFile.ShiftValue α) :=
  shift.files.findSome? fun file => file.interpolate? point

/-- The shift at a point in degrees. -/
def value? (shift : GridShift α) (point : Point α) : Option (GridFile.ShiftValue α) :=
  shift.valueAt? point.toArc

/-- A point in arc-seconds moved by a shift, in degrees. -/
def moved (arc : ArcPoint α) (value : GridFile.ShiftValue α) : Point α where
  x := -(arc.lon + value.lon) / secondsPerDegree
  y := (arc.lat + value.lat) / secondsPerDegree

/-- The point that a point is moved to. -/
def forward? (shift : GridShift α) (point : Point α) : Option (Point α) :=
  (shift.valueAt? point.toArc).map (moved point.toArc)

/-! ## The inverse -/

/-- The miss, in degrees, that ends the search. -/
def inverseTolerance : α :=
  Scalar.decimal 1 12

/-- The most steps of the search. -/
def inverseSteps : Nat := 10

/-- The search from an estimate that may be corrected `steps` times. -/
def searchFrom (shift : GridShift α) (target : Point α) : (steps : Nat) → Point α → Point α
  | 0, estimate => estimate
  | steps + 1, estimate =>
    -- an estimate off the sub-grids cannot be corrected any more
    match shift.forward? estimate with
    | none => estimate
    | some reached =>
      let dx := reached.x - target.x
      let dy := reached.y - target.y
      let corrected : Point α := { x := estimate.x - dx, y := estimate.y - dy }
      -- the last correction is still made when the miss is small enough
      if Scalar.lt (Scalar.abs dx) inverseTolerance &&
          Scalar.lt (Scalar.abs dy) inverseTolerance then corrected
      else searchFrom shift target steps corrected

/-- The point that is moved to a given one. -/
def inverse? (shift : GridShift α) (target : Point α) : Option (Point α) :=
  if (shift.forward? target).isSome then some (shift.searchFrom target inverseSteps target)
  else none

/-- The shift in its own direction. -/
def shifted? (shift : GridShift α) (point : Point α) : Option (Point α) :=
  match shift.direction with
  | .forward => shift.forward? point
  | .inverse => shift.inverse? point

/-- Each point after the shift, and whether the shift reaches it; others stay where they are. -/
def applyEach (shift : GridShift α) (points : List (Point α)) : List (Point α × Bool) :=
  points.map fun point =>
    match shift.shifted? point with
    | some reached => (reached, true)
    | none => (point, false)

end GridShift

end Georef
