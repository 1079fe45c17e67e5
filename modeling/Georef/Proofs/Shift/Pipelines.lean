import Georef.Proofs.Shift.Inverse
import Georef.Shift.Pipeline

/-!
# What a transform runs

The steps of a transform form a tree, and each of them moves the point that the step before it has
left. Which grid shifts are run, and whether a transform without steps stops them, does not depend
on the point: it can be told from the tree. So a transform comes to the same as a plain list of grid
shifts, with a failure behind them or none.

The module introduces:

* `GridShift.reached`, `GridShift.reports` — where grid shifts lead that are run in order, and what
  each of them reports.
* `Course`, `Step.course` — what a step runs; `Course.outcome` — what that comes to at a point,
  which is what the step comes to (`Step.apply_eq`).

`Transform.apply_of_course` says what can be told of the point from the outcome of a transform.
-/

namespace Georef

variable {α : Type} [Scalar α]

/-! ## Grid shifts in order -/

namespace GridShift

/-- The point that grid shifts lead to, which are run in order. -/
def reached (shifts : List (GridShift α)) (point : Point α) : Point α :=
  shifts.foldl (fun point shift => (shift.shifted? point).getD point) point

/-- What each of them reports, which is whether it has moved the point that it found. -/
def reports : List (GridShift α) → Point α → List Bool
  | [], _ => []
  | shift :: rest, point =>
    (shift.shifted? point).isSome :: reports rest ((shift.shifted? point).getD point)

variable {shifts : List (GridShift α)} {point : Point α}

theorem reached_append (first second : List (GridShift α)) (point : Point α) :
    reached (first ++ second) point = reached second (reached first point) :=
  List.foldl_append ..

theorem reports_append (first second : List (GridShift α)) (point : Point α) :
    reports (first ++ second) point =
      reports first point ++ reports second (reached first point) := by
  induction first generalizing point with
  | nil => rfl
  | cons shift rest ih => rw [List.cons_append, reports, reports, ih, List.cons_append]; rfl

/-- Grid shifts that report nothing leave the point as it is. -/
theorem reached_eq_self (h : true ∉ reports shifts point) : reached shifts point = point := by
  induction shifts with
  | nil => rfl
  | cons shift rest ih =>
    rw [reports, List.mem_cons, not_or] at h
    obtain ⟨hshift, hrest⟩ := h
    -- the first one has not moved the point, so that the others find it where it was
    have hnone : shift.shifted? point = none := by simpa using hshift
    rw [hnone, Option.getD_none] at hrest
    simpa [reached, hnone] using ih hrest

end GridShift

/-! ## Courses -/

/-- What a step runs: grid shifts in order, and the failure behind them if they are stopped. -/
structure Course (α : Type) where
  shifts : List (GridShift α) := []
  fault? : Option Error := none

namespace Course

/-- What is run in the one course, and then in the other if nothing stops it. -/
def andThen (first second : Course α) : Course α :=
  match first.fault? with
  | some _ => first
  | none => { second with shifts := first.shifts ++ second.shifts }

/-- What a course comes to: its failure, or whether one of its grid shifts has moved the point, and
the point after them. -/
def outcome (course : Course α) (point : Point α) : Except Error Bool × Point α :=
  (match course.fault? with
    | some fault => .error fault
    | none => .ok ((GridShift.reports course.shifts point).any id),
    GridShift.reached course.shifts point)

end Course

mutual

/-- What a step runs. -/
def Step.course {α : Type} : Step α → Course α
  | .shift grids => { shifts := [grids] }
  | .transform source target steps =>
    if source.needsNoShift target then {}
    else if steps.isEmpty then { fault? := some (.unsupported (.noSteps source target)) }
    else Step.courseAll steps

/-- What steps run in order. -/
def Step.courseAll {α : Type} : List (Step α) → Course α
  | [] => {}
  | step :: rest => (Step.course step).andThen (Step.courseAll rest)

end

/-- What comes after a course that is stopped is not run; after any other one it finds the point
that the course has left. -/
theorem Course.outcome_andThen (first second : Course α) (point : Point α) :
    (first.andThen second).outcome point =
      match first.outcome point with
      | (.error fault, reached) => (.error fault, reached)
      | (.ok moved, reached) =>
        match second.outcome reached with
        | (.error fault, last) => (.error fault, last)
        | (.ok later, last) => (.ok (moved || later), last) := by
  rcases first with ⟨shifts, _ | fault⟩
  · rcases second with ⟨others, _ | fault⟩
    · simp [andThen, outcome, GridShift.reports_append, GridShift.reached_append]
    · simp [andThen, outcome, GridShift.reached_append]
  · rfl

mutual

/-- A step comes to what its course comes to. -/
theorem Step.apply_eq (point : Point α) (step : Step α) :
    step.apply point = step.course.outcome point := by
  match step with
  | .shift grids =>
    rw [Step.apply, Step.course]
    cases hshift : grids.shifted? point <;>
      simp [Course.outcome, GridShift.reports, GridShift.reached, hshift]
  | .transform source target steps =>
    rw [Step.apply, Step.course]
    split
    · rfl
    split
    · rfl
    · exact Step.applyAll_eq point steps

theorem Step.applyAll_eq (point : Point α) (steps : List (Step α)) :
    Step.applyAll point steps = (Step.courseAll steps).outcome point := by
  match steps with
  | [] => rfl
  | step :: rest =>
    rw [Step.applyAll, Step.courseAll, Course.outcome_andThen, Step.apply_eq point step]
    rcases (Step.course step).outcome point with ⟨fault | moved, reached⟩
    · rfl
    · rcases hrest : (Step.courseAll rest).outcome reached with ⟨fault | later, last⟩ <;>
        simp only [Step.applyAll_eq reached rest, hrest]

end

/-! ## Outcomes -/

namespace Course

variable {course : Course α} {point : Point α}

theorem outcome_eq_true_iff :
    (course.outcome point).1 = .ok true ↔
      course.fault? = none ∧ true ∈ GridShift.reports course.shifts point := by
  rcases course with ⟨shifts, _ | fault⟩ <;> simp [outcome]

/-- A course that ends without a failure and without a report leaves the point as it is. -/
theorem reached_of_outcome_eq_false (h : (course.outcome point).1 = .ok false) :
    (course.outcome point).2 = point := by
  rcases course with ⟨shifts, _ | fault⟩
  · apply GridShift.reached_eq_self
    intro hreport
    have hmoved := outcome_eq_true_iff.2 ⟨rfl, hreport⟩
    rw [h] at hmoved
    cases hmoved
  · cases h

end Course

theorem Datum.needsNoShift_self {datum : Datum} (h : datum ≠ .custom) :
    datum.needsNoShift datum = true := by
  simp [needsNoShift, h]

/-- A transform that comes to `false` leaves the point as it is, whatever numbers it is made of. One
comes to `true` exactly if nothing that is run fails and a grid shift that is run reports that it
has moved the point, in whatever depth it stands. Between equal datums that are known no step is
run. -/
theorem Transform.apply_of_course (transform : Transform α) (point : Point α) :
    let course := transform.toStep.course
    (transform.apply point).2 = GridShift.reached course.shifts point ∧
      ((transform.apply point).1 = .ok false → (transform.apply point).2 = point) ∧
      ((transform.apply point).1 = .ok true ↔
        course.fault? = none ∧ true ∈ GridShift.reports course.shifts point) ∧
      ∀ (datum : Datum) (steps : List (Step α)), datum ≠ .custom →
        (Step.transform datum datum steps).course = {} ∧
          ∀ found, (Step.transform datum datum steps).apply found = (.ok false, found) := by
  intro course
  have houtcome : transform.apply point = course.outcome point :=
    Step.apply_eq point transform.toStep
  rw [houtcome]
  refine ⟨rfl, Course.reached_of_outcome_eq_false, Course.outcome_eq_true_iff, ?_⟩
  intro datum steps hdatum
  have hnone := Datum.needsNoShift_self hdatum
  constructor
  · rw [Step.course, if_pos hnone]
  · intro found
    rw [Step.apply, if_pos hnone]

/-- A shift by half a degree, and one more in a transform that has nothing to do. To the south of
the square they leave the point as it is; in the square it is moved once. -/
theorem Transform.apply_of_course_halfDegree :
    ∃ file : GridFile Rat, GridFile.ofResource GridShift.halfDegreeSource = .ok file ∧
      let shift : Step Rat := .shift (GridShift.ofFile file)
      let transform : Transform Rat :=
        { source := .nad27, target := .nad83, steps := [shift, .transform .wgs84 .wgs84 [shift]] }
      transform.toStep.course.shifts = [GridShift.ofFile file] ∧
        (transform.apply ⟨-1 / 2, -1 / 4⟩).1 = .ok false ∧
        (transform.apply ⟨-1 / 2, -1 / 4⟩).2 = ⟨-1 / 2, -1 / 4⟩ ∧
        (transform.apply ⟨-1 / 2, 1 / 4⟩).1 = .ok true ∧
        (transform.apply ⟨-1 / 2, 1 / 4⟩).2 = ⟨-1 / 2, 3 / 4⟩ := by
  obtain ⟨file, hread, -, -, hforward, -, huncovered⟩ := GridShift.exists_halfDegree
  refine ⟨file, hread, ?_⟩
  intro shift transform
  obtain ⟨-, hsouth, -, hequal⟩ := transform.apply_of_course ⟨-1 / 2, -1 / 4⟩
  obtain ⟨hinside, -, hmoved, -⟩ := transform.apply_of_course ⟨-1 / 2, 1 / 4⟩
  have hcourse : transform.toStep.course = { shifts := [GridShift.ofFile file] } := by
    obtain ⟨hinner, -⟩ := hequal .wgs84 [shift] (by decide)
    have hsteps : transform.toStep.course = (Step.course shift).andThen
        ((Step.transform .wgs84 .wgs84 [shift]).course.andThen {}) := rfl
    rw [hsteps, hinner]
    rfl
  have hshift : (GridShift.ofFile file).shifted? ⟨-1 / 2, 1 / 4⟩ = some ⟨-1 / 2, 3 / 4⟩ := hforward
  have hnone : (GridShift.ofFile file).shifted? ⟨-1 / 2, -1 / 4⟩ = none := huncovered
  have huntouched : (transform.apply ⟨-1 / 2, -1 / 4⟩).1 = .ok false := by
    have houtcome : (transform.apply ⟨-1 / 2, -1 / 4⟩).1 =
        .ok ([((GridShift.ofFile file).shifted? ⟨-1 / 2, -1 / 4⟩).isSome].any id) :=
      congrArg Prod.fst (Step.apply_eq _ transform.toStep)
    rw [houtcome, hnone]
    rfl
  refine ⟨by rw [hcourse], huntouched, hsouth huntouched, ?_, ?_⟩
  · rw [hmoved, hcourse]
    refine ⟨rfl, ?_⟩
    rw [GridShift.reports, hshift]
    exact List.mem_cons_self
  · rw [hinside, hcourse, GridShift.reached, List.foldl_cons, hshift]
    rfl

/-- A grid shift may report that it has moved the point and a transform without steps fail behind
it; then the outcome is the failure, and the point stays moved. -/
theorem Transform.exists_report_before_failure :
    ∃ (file : GridFile Rat) (transform : Transform Rat) (point : Point Rat),
      GridFile.ofResource GridShift.halfDegreeSource = .ok file ∧
        true ∈ GridShift.reports transform.toStep.course.shifts point ∧
        transform.apply point =
          (.error (.unsupported (.noSteps .wgs84 .nad83)), ⟨-1 / 2, 3 / 4⟩) := by
  obtain ⟨file, hread, -, -, hforward, -, -⟩ := GridShift.exists_halfDegree
  have hshift : (GridShift.ofFile file).shifted? ⟨-1 / 2, 1 / 4⟩ = some ⟨-1 / 2, 3 / 4⟩ := hforward
  let transform : Transform Rat :=
    { source := .nad27, target := .nad83
      steps := [.shift (GridShift.ofFile file), .transform .wgs84 .nad83 []] }
  have hcourse : transform.toStep.course =
      { shifts := [GridShift.ofFile file]
        fault? := some (.unsupported (.noSteps .wgs84 .nad83)) } := rfl
  have houtcome : transform.apply ⟨-1 / 2, 1 / 4⟩ = transform.toStep.course.outcome _ :=
    Step.apply_eq _ transform.toStep
  refine ⟨file, transform, ⟨-1 / 2, 1 / 4⟩, hread, ?_, ?_⟩
  · rw [hcourse, GridShift.reports, hshift]
    exact List.mem_cons_self
  · rw [houtcome, hcourse, Course.outcome, GridShift.reached, List.foldl_cons, hshift]
    rfl

end Georef
