import Georef.Shift.Datum
import Georef.Shift.GridShift

/-!
# Datum transforms

A transform leads from one datum to another through steps, which are grid shifts or transforms of
their own. Steps are taken in order. A step that does not reach a point leaves it where it is; a
transform between equal known datums takes no step, and one without steps fails.

* `Step`, `Transform`: steps and transforms.
* `Transform.apply`: the outcome of a transform, and the point after it. When a step fails, what
  earlier steps did to the point stays.
-/

namespace Georef

/-- A step of a transform. -/
inductive Step (α : Type) where
  | shift (grids : GridShift α)
  /-- A transform from one datum to another. -/
  | transform (source target : Datum) (steps : List (Step α))

/-- A transform between two datums. -/
structure Transform (α : Type) where
  source : Datum
  target : Datum
  steps : List (Step α) := []

namespace Transform

/-- The transform that the header of a grid file describes. -/
def ofFile {α : Type} (file : GridFile α) : Transform α where
  source := .ofName file.overview.source
  target := .ofName file.overview.target
  steps := [.shift { files := [file] }]

/-- The transform of a grid file taken backwards. -/
def ofFileInverse {α : Type} (file : GridFile α) : Transform α where
  source := .ofName file.overview.target
  target := .ofName file.overview.source
  steps := [.shift { files := [file], direction := .inverse }]

/-- The datums by name. -/
def name {α : Type} (transform : Transform α) : String :=
  s!"{transform.source.name} -> {transform.target.name}"

/-- A transform as a step. -/
def toStep {α : Type} (transform : Transform α) : Step α :=
  .transform transform.source transform.target transform.steps

end Transform

/-- Whether a transform between two datums has nothing to do. -/
def Datum.needsNoShift (source target : Datum) : Bool :=
  source == target && source != .custom

mutual

/-- The outcome of a step, which is whether it moved the point, and the point after it. -/
def Step.apply {α : Type} [Scalar α] (point : Point α) :
    Step α → Except Error Bool × Point α
  | .shift grids =>
    match grids.shifted? point with
    | some reached => (.ok true, reached)
    | none => (.ok false, point)
  | .transform source target steps =>
    if source.needsNoShift target then (.ok false, point)
    else if steps.isEmpty then (.error (.unsupported (.noSteps source target)), point)
    else Step.applyAll point steps

/-- The outcome of steps in order, which is whether one of them moved the point, and the point after
them. -/
def Step.applyAll {α : Type} [Scalar α] (point : Point α) :
    List (Step α) → Except Error Bool × Point α
  | [] => (.ok false, point)
  | step :: rest =>
    match Step.apply point step with
    -- the point stays where the failing step found it
    | (.error fault, reached) => (.error fault, reached)
    | (.ok moved, reached) =>
      match Step.applyAll reached rest with
      | (.error fault, last) => (.error fault, last)
      | (.ok later, last) => (.ok (moved || later), last)

end

/-- The outcome of a transform, and the point after it. -/
def Transform.apply {α : Type} [Scalar α] (transform : Transform α) (point : Point α) :
    Except Error Bool × Point α :=
  transform.toStep.apply point

end Georef
