import Georef.Proofs.Shift.Pipelines

/-!
# Where a transform fails

Grid shifts do not fail, so a transform fails at a transform without steps, which stands somewhere
in its tree. What comes before that place has been run by then, step by step, and nothing takes it
back: the point stays where it has led. The place can be told from the tree, as the course of the
transform can, so that a transform fails at all points or at none.

The module introduces:

* `Step.Stops step before fault` — a place in the tree of a step where it cannot go on, with the
  steps that come before this place.

`Transform.apply_failed` says when a transform fails and where it leaves the point;
`Transform.exists_failure_moved` is one that leaves it somewhere else.
-/

namespace Georef

variable {α : Type}

/-! ## Courses one after the other -/

namespace Course

variable {first second : Course α} {fault : Error}

theorem andThen_of_none (h : first.fault? = none) :
    first.andThen second = { second with shifts := first.shifts ++ second.shifts } := by
  rw [andThen, h]

theorem andThen_of_some (h : first.fault? = some fault) : first.andThen second = first := by
  rw [andThen, h]

theorem andThen_assoc (first second third : Course α) :
    (first.andThen second).andThen third = first.andThen (second.andThen third) := by
  rcases first with ⟨shifts, _ | fault⟩
  · rcases second with ⟨others, _ | fault⟩ <;> simp [andThen]
  · rfl

/-- Nothing is stopped exactly if neither part is. -/
theorem fault?_andThen_eq_none_iff :
    (first.andThen second).fault? = none ↔ first.fault? = none ∧ second.fault? = none := by
  cases hfirst : first.fault? with
  | some fault => simp [andThen_of_some hfirst, hfirst]
  | none => simp [andThen_of_none hfirst]

end Course

namespace Step

theorem courseAll_append (earlier rest : List (Step α)) :
    courseAll (earlier ++ rest) = (courseAll earlier).andThen (courseAll rest) := by
  induction earlier with
  | nil => rfl
  | cons step earlier ih => rw [List.cons_append, courseAll, courseAll, ih, Course.andThen_assoc]

/-! ## Places where steps stop -/

/-- `Stops step before fault`: in the tree of the step there is a transform that has something to do
but no steps, which is the fault. The steps `before` come before it, at all depths and in order. -/
inductive Stops : Step α → List (Step α) → Error → Prop
  | here {source target : Datum} (hneeds : source.needsNoShift target = false) :
      Stops (.transform source target []) [] (.unsupported (.noSteps source target))
  | within {source target : Datum} {earlier before later : List (Step α)} {step : Step α}
      {fault : Error} (hneeds : source.needsNoShift target = false)
      (hstep : Stops step before fault) :
      Stops (.transform source target (earlier ++ step :: later)) (earlier ++ before) fault

variable {step : Step α} {steps before : List (Step α)} {fault : Error}

theorem course_transform {source target : Datum} (hneeds : source.needsNoShift target = false)
    (hsteps : steps ≠ []) : (transform source target steps).course = courseAll steps := by
  rw [course, if_neg (by simp [hneeds]), if_neg (by simpa using hsteps)]

/-- If nothing stops what comes before the place, the step runs it and is stopped there. -/
theorem Stops.course_eq (h : step.Stops before fault) (hbefore : (courseAll before).fault? = none) :
    step.course = { shifts := (courseAll before).shifts, fault? := some fault } := by
  induction h with
  | here hneeds => simp [course, courseAll, hneeds]
  | @within source target earlier before later step fault hneeds hstep ih =>
    rw [courseAll_append, Course.fault?_andThen_eq_none_iff] at hbefore
    obtain ⟨hearlier, hinner⟩ := hbefore
    -- the steps behind the one that is stopped are not run, and those before it are run to the end
    have hstopped : step.course.fault? = some fault := by rw [ih hinner]
    rw [course_transform hneeds (by simp), courseAll_append, courseAll_append, courseAll,
      Course.andThen_of_some hstopped, ih hinner, Course.andThen_of_none hearlier,
      Course.andThen_of_none hearlier]

/-- If steps are stopped then one of them is, and those in front of it are run. -/
theorem exists_stopsAll {steps : List (Step α)}
    (hstops : ∀ step ∈ steps, step.course.fault? = some fault →
      ∃ before, step.Stops before fault ∧ courseAll before = { shifts := step.course.shifts })
    (h : (courseAll steps).fault? = some fault) :
    ∃ earlier step later before, steps = earlier ++ step :: later ∧ step.Stops before fault ∧
      courseAll (earlier ++ before) = { shifts := (courseAll steps).shifts } := by
  induction steps with
  | nil => cases h
  | cons step rest ih =>
    obtain ⟨hfirst, hrest⟩ := List.forall_mem_cons.1 hstops
    rw [courseAll] at h ⊢
    -- the place is in the first step, or else this step comes before it
    cases hstep : step.course.fault? with
    | some other =>
      rw [Course.andThen_of_some hstep] at h ⊢
      obtain ⟨before, hbefore, hcourse⟩ := hfirst h
      exact ⟨[], step, rest, before, rfl, hbefore, hcourse⟩
    | none =>
      rw [Course.andThen_of_none hstep] at h ⊢
      obtain ⟨earlier, inner, later, before, hlist, hbefore, hcourse⟩ := ih hrest h
      refine ⟨step :: earlier, inner, later, before, by rw [hlist, List.cons_append], hbefore, ?_⟩
      rw [List.cons_append, courseAll, hcourse, Course.andThen_of_none hstep]

/-- What is stopped is stopped at such a place, and has run what comes before it. -/
theorem exists_stops (step : Step α) (h : step.course.fault? = some fault) :
    ∃ before, step.Stops before fault ∧ courseAll before = { shifts := step.course.shifts } := by
  match step with
  | .shift grids => cases h
  | .transform source target steps =>
    cases hneeds : source.needsNoShift target with
    | true =>
      rw [course, if_pos hneeds] at h
      cases h
    | false =>
      -- without steps the transform is the place itself, and with steps it is stopped in one of them
      by_cases hsteps : steps = []
      · subst hsteps
        have hempty : (transform source target ([] : List (Step α))).course =
            { fault? := some (.unsupported (.noSteps source target)) } := by
          simp [course, hneeds]
        rw [hempty] at h ⊢
        obtain rfl := Option.some.inj h
        exact ⟨[], .here hneeds, rfl⟩
      · rw [course_transform hneeds hsteps] at h ⊢
        obtain ⟨earlier, step, later, before, hlist, hstops, hbefore⟩ :=
          exists_stopsAll (fun inner _ => exists_stops inner) h
        refine ⟨earlier ++ before, ?_, hbefore⟩
        rw [hlist]
        exact .within hneeds hstops
termination_by sizeOf step

end Step

/-! ## Points after a failure -/

section Points

variable [Scalar α] {point last : Point α} {fault : Error} {moved : Bool}

theorem Course.outcome_eq_error_iff {course : Course α} :
    course.outcome point = (.error fault, last) ↔
      course.fault? = some fault ∧ GridShift.reached course.shifts point = last := by
  rcases course with ⟨shifts, _ | other⟩ <;> simp [outcome]

theorem Course.outcome_eq_ok_iff {course : Course α} :
    course.outcome point = (.ok moved, last) ↔
      course.fault? = none ∧ (GridShift.reports course.shifts point).any id = moved ∧
        GridShift.reached course.shifts point = last := by
  rcases course with ⟨shifts, _ | other⟩ <;> simp [outcome]

/-- Steps that come to `false` leave the point as it is. -/
theorem Step.eq_of_applyAll_eq_false {steps : List (Step α)}
    (h : Step.applyAll point steps = (.ok false, last)) : last = point := by
  rw [Step.applyAll_eq] at h
  have hpoint := Course.reached_of_outcome_eq_false (congrArg Prod.fst h)
  rw [h] at hpoint
  exact hpoint

/-- A transform fails exactly if it comes to a transform that has something to do and no steps. It
leaves the point where the steps before that one have led it, which is where it was if none of them
has moved it. -/
theorem Transform.apply_failed (transform : Transform α) (point last : Point α) (fault : Error) :
    transform.apply point = (.error fault, last) ↔
      ∃ before moved, transform.toStep.Stops before fault ∧
        Step.applyAll point before = (.ok moved, last) ∧ (moved = false → last = point) := by
  rw [Transform.apply, Step.apply_eq, Course.outcome_eq_error_iff]
  constructor
  · rintro ⟨hfault, hlast⟩
    obtain ⟨before, hstops, hbefore⟩ := Step.exists_stops transform.toStep hfault
    obtain ⟨moved, happly⟩ : ∃ moved, Step.applyAll point before = (.ok moved, last) := by
      rw [Step.applyAll_eq, hbefore]
      exact ⟨_, Course.outcome_eq_ok_iff.2 ⟨rfl, rfl, hlast⟩⟩
    refine ⟨before, moved, hstops, happly, ?_⟩
    rintro rfl
    exact Step.eq_of_applyAll_eq_false happly
  · rintro ⟨before, moved, hstops, happly, -⟩
    rw [Step.applyAll_eq] at happly
    obtain ⟨hbefore, -, hlast⟩ := Course.outcome_eq_ok_iff.1 happly
    rw [hstops.course_eq hbefore]
    exact ⟨rfl, hlast⟩

end Points

/-- A shift by half a degree with a transform behind it that cannot go on in its second step. To the
south of the square the point is left as it is, and in the square it is left moved. -/
theorem Transform.apply_failed_halfDegree :
    ∃ file : GridFile Rat, GridFile.ofResource GridShift.halfDegreeSource = .ok file ∧
      let shift : Step Rat := .shift (GridShift.ofFile file)
      let idle : Step Rat := .transform .wgs84 .wgs84 []
      let transform : Transform Rat :=
        { source := .nad27, target := .nad83
          steps := [shift, .transform .nad83 .wgs84 [idle, .transform .custom .custom []], shift] }
      transform.toStep.Stops [shift, idle] (.unsupported (.noSteps .custom .custom)) ∧
        transform.apply ⟨-1 / 2, -1 / 4⟩ =
          (.error (.unsupported (.noSteps .custom .custom)), ⟨-1 / 2, -1 / 4⟩) ∧
        transform.apply ⟨-1 / 2, 1 / 4⟩ =
          (.error (.unsupported (.noSteps .custom .custom)), ⟨-1 / 2, 3 / 4⟩) := by
  obtain ⟨file, hread, -, -, hforward, -, huncovered⟩ := GridShift.exists_halfDegree
  refine ⟨file, hread, ?_⟩
  intro shift idle transform
  have hinner : Step.Stops
      (.transform .nad83 .wgs84 ([idle] ++ .transform .custom .custom [] :: [])) ([idle] ++ [])
      (.unsupported (.noSteps .custom .custom)) := .within rfl (.here rfl)
  have houter : Step.Stops (.transform .nad27 .nad83
      ([shift] ++ .transform .nad83 .wgs84 [idle, .transform .custom .custom []] :: [shift]))
      ([shift] ++ [idle]) (.unsupported (.noSteps .custom .custom)) := .within rfl hinner
  have hstops : transform.toStep.Stops [shift, idle] (.unsupported (.noSteps .custom .custom)) :=
    houter
  have hshift : (GridShift.ofFile file).shifted? ⟨-1 / 2, 1 / 4⟩ = some ⟨-1 / 2, 3 / 4⟩ := hforward
  have hnone : (GridShift.ofFile file).shifted? ⟨-1 / 2, -1 / 4⟩ = none := huncovered
  have hbefore (point : Point Rat) : Step.applyAll point [shift, idle] =
      (.ok ((GridShift.ofFile file).shifted? point).isSome,
        ((GridShift.ofFile file).shifted? point).getD point) := by
    have hcourse : Step.courseAll [shift, idle] = { shifts := [GridShift.ofFile file] } := rfl
    rw [Step.applyAll_eq, hcourse, Course.outcome_eq_ok_iff]
    exact ⟨rfl, by simp [GridShift.reports], rfl⟩
  have hsouth : Step.applyAll ⟨-1 / 2, -1 / 4⟩ [shift, idle] = (.ok false, ⟨-1 / 2, -1 / 4⟩) := by
    rw [hbefore, hnone]
    rfl
  have hinside : Step.applyAll ⟨-1 / 2, 1 / 4⟩ [shift, idle] = (.ok true, ⟨-1 / 2, 3 / 4⟩) := by
    rw [hbefore, hshift]
    rfl
  refine ⟨hstops, ?_, ?_⟩
  · exact (transform.apply_failed _ _ _).2 ⟨_, false, hstops, hsouth, fun _ => rfl⟩
  · exact (transform.apply_failed _ _ _).2 ⟨_, true, hstops, hinside, fun h => by cases h⟩

/-- A transform may fail with the point moved by the grid shifts before the failure. -/
theorem Transform.exists_failure_moved :
    ∃ (file : GridFile Rat) (transform : Transform Rat) (point : Point Rat),
      GridFile.ofResource GridShift.halfDegreeSource = .ok file ∧
        (transform.apply point).1 = .error (.unsupported (.noSteps .nad83 .wgs84)) ∧
        (transform.apply point).2 ≠ point := by
  obtain ⟨file, hread, -, -, hforward, -, -⟩ := GridShift.exists_halfDegree
  have hshift : (GridShift.ofFile file).shifted? ⟨-1 / 2, 1 / 4⟩ = some ⟨-1 / 2, 3 / 4⟩ := hforward
  let transform : Transform Rat :=
    { source := .nad27, target := .wgs84
      steps := [.shift (GridShift.ofFile file), .transform .nad83 .wgs84 []] }
  have houtcome : transform.apply ⟨-1 / 2, 1 / 4⟩ =
      (.error (.unsupported (.noSteps .nad83 .wgs84)), ⟨-1 / 2, 3 / 4⟩) := by
    rw [Transform.apply, Step.apply_eq, Course.outcome_eq_error_iff]
    refine ⟨rfl, ?_⟩
    show ((GridShift.ofFile file).shifted? ⟨-1 / 2, 1 / 4⟩).getD _ = _
    rw [hshift, Option.getD_some]
  refine ⟨file, transform, ⟨-1 / 2, 1 / 4⟩, hread, ?_, ?_⟩
  · rw [houtcome]
  · rw [houtcome]
    decide +kernel

end Georef
