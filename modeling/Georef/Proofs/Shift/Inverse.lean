import Georef.Proofs.GridFile.Blending
import Georef.Service.Routes
import Mathlib.Tactic.Ring

/-!
# Where the inverse shift ends

The inverse shift is a search: an estimate is corrected by what the forward shift misses. A
corrected estimate misses by as much as its displacement differs from that of the one before, so
where displacements differ little the misses shrink from step to step.

The search ends when a miss is small enough, when a corrected estimate is on no sub-grid, or when
the steps run out. It succeeds in each of these cases, so the point that it gives need not be one
that is moved to the target. It is one, up to a small miss, if it is on a sub-grid and displacements
differ by at most a tenth as much as the points do. Numbers are exact here.

The module introduces:

* `Point.span` — the greater of the two coordinates of a difference, without their signs.
* `GridShift.DisplacementLipschitz shift bound` — displacements differ by at most `bound` times as
  much as the points do.
* `GridShift.estimate?` — the estimates one after the other; `GridShift.Unfinished` — the first ones
  do not end the search.
* `GridShift.SearchEnd` — the last correction of a search, and why it was the last.

`GridShift.inverse?_lands` says where the point is moved that the search ends with, and what the
service answers; `GridShift.exists_inverse?_uncovered` is a search that leaves the sub-grids.
-/

namespace Georef

/-! ## Differences of points -/

attribute [ext] Point

instance : Sub (Point Rat) where
  sub p q := { x := p.x - q.x, y := p.y - q.y }

namespace Point

@[simp]
theorem x_sub (p q : Point Rat) : (p - q).x = p.x - q.x := rfl

@[simp]
theorem y_sub (p q : Point Rat) : (p - q).y = p.y - q.y := rfl

/-- The greater of the two coordinates without their signs. -/
def span (p : Point Rat) : Rat :=
  max |p.x| |p.y|

theorem span_le_iff {p : Point Rat} {bound : Rat} :
    p.span ≤ bound ↔ |p.x| ≤ bound ∧ |p.y| ≤ bound :=
  max_le_iff

theorem span_nonneg (p : Point Rat) : 0 ≤ p.span :=
  le_max_of_le_left (abs_nonneg p.x)

end Point

/-! ## Shifts at points -/

namespace GridFile

/-- Where all nodes have the same value, so have the points between them. -/
theorem interpolate?_uniform {value found : ShiftValue Rat} {grid : SubGrid Rat}
    (h : ∀ node ∈ grid.nodes, node = value) {point : ArcPoint Rat}
    (hfound : grid.interpolate? point = some found) : found = value :=
  ShiftValue.ext_components fun _ hpart => SubGrid.component_eq_of_nodes hpart
    (fun node hnode => congrArg _ (h node hnode)) hfound

end GridFile

namespace GridShift

theorem inverseTolerance_rat : (inverseTolerance : Rat) = 1 / 10 ^ 12 := by
  show mkRat 1 (10 ^ 12) = _
  norm_num [Rat.mkRat_eq_div]

variable {shift : GridShift Rat} {target : Point Rat}

/-! ## Estimates -/

/-- `DisplacementLipschitz shift bound`: the displacements of two points differ by at most `bound`
times as much as the points do. -/
def DisplacementLipschitz (shift : GridShift Rat) (bound : Rat) : Prop :=
  ∀ p q moved moved' : Point Rat, shift.forward? p = some moved → shift.forward? q = some moved' →
    ((moved' - q) - (moved - p)).span ≤ bound * (p - q).span

/-- The estimate behind a number of corrections; none if an earlier one is on no sub-grid. -/
def estimate? (shift : GridShift Rat) (target : Point Rat) : (count : Nat) → Option (Point Rat)
  | 0 => some target
  | count + 1 => do
    let estimate ← shift.estimate? target count
    let moved ← shift.forward? estimate
    return estimate - (moved - target)

theorem estimate?_succ {count : Nat} {estimate moved : Point Rat}
    (h : shift.estimate? target count = some estimate)
    (hmoved : shift.forward? estimate = some moved) :
    shift.estimate? target (count + 1) = some (estimate - (moved - target)) := by
  rw [estimate?, h]
  show (shift.forward? estimate >>= _) = _
  rw [hmoved]
  rfl

/-- The miss of a corrected estimate is the difference of its displacement from the one before. -/
theorem miss_of_correction {estimate moved corrected landed : Point Rat}
    (h : corrected = estimate - (moved - target)) :
    landed - target = (landed - corrected) - (moved - estimate) := by
  subst h
  ext <;> simp only [Point.x_sub, Point.y_sub] <;> ring

/-- A correction changes an estimate by its miss. -/
theorem change_of_correction {estimate moved corrected : Point Rat}
    (h : corrected = estimate - (moved - target)) : estimate - corrected = moved - target := by
  subst h
  ext <;> simp

section Misses

variable {bound : Rat} {start : Point Rat}

/-- One correction makes the miss smaller by the factor that bounds the displacements. -/
theorem DisplacementLipschitz.span_miss_le (hshift : shift.DisplacementLipschitz bound)
    {estimate moved corrected landed : Point Rat} (hmoved : shift.forward? estimate = some moved)
    (hcorrected : corrected = estimate - (moved - target))
    (hlanded : shift.forward? corrected = some landed) :
    (landed - target).span ≤ bound * (moved - target).span := by
  rw [miss_of_correction hcorrected, ← change_of_correction hcorrected]
  exact hshift estimate corrected moved landed hmoved hlanded

/-- Corrections make the miss smaller by a power of this factor. -/
theorem DisplacementLipschitz.span_miss_estimate_le (hbound : 0 ≤ bound)
    (hshift : shift.DisplacementLipschitz bound) (hstart : shift.forward? target = some start)
    {count : Nat} {estimate moved : Point Rat}
    (hestimate : shift.estimate? target count = some estimate)
    (hmoved : shift.forward? estimate = some moved) :
    (moved - target).span ≤ bound ^ count * (start - target).span := by
  induction count generalizing estimate moved with
  | zero =>
    obtain rfl := Option.some.inj hestimate
    obtain rfl := Option.some.inj (hstart.symm.trans hmoved)
    simp
  | succ count ih =>
    obtain ⟨before, hbefore, hrest⟩ := Option.bind_eq_some_iff.1 hestimate
    obtain ⟨reached, hreached, hcorrected⟩ := Option.bind_eq_some_iff.1 hrest
    have hcorrected : estimate = before - (reached - target) := (Option.some.inj hcorrected).symm
    calc (moved - target).span
        ≤ bound * (reached - target).span := hshift.span_miss_le hreached hcorrected hmoved
      _ ≤ bound * (bound ^ count * (start - target).span) :=
          mul_le_mul_of_nonneg_left (ih hbefore hreached) hbound
      _ = bound ^ (count + 1) * (start - target).span := by ring

end Misses

/-! ## The end of a search -/

/-- `Unfinished shift target count`: none of the first `count` estimates is moved near enough to the
target to end the search. -/
def Unfinished (shift : GridShift Rat) (target : Point Rat) (count : Nat) : Prop :=
  ∀ earlier < count, ∀ estimate moved : Point Rat, shift.estimate? target earlier = some estimate →
    shift.forward? estimate = some moved → ¬(moved - target).span < 1 / 10 ^ 12

theorem Unfinished.succ {count : Nat} (h : shift.Unfinished target count)
    {estimate moved : Point Rat} (hestimate : shift.estimate? target count = some estimate)
    (hmoved : shift.forward? estimate = some moved)
    (hfar : ¬(moved - target).span < 1 / 10 ^ 12) : shift.Unfinished target (count + 1) := by
  intro earlier hearlier other moved' hother hmoved'
  rcases Nat.lt_succ_iff_lt_or_eq.1 hearlier with hlt | rfl
  · exact h earlier hlt other moved' hother hmoved'
  · obtain rfl := Option.some.inj (hestimate.symm.trans hother)
    obtain rfl := Option.some.inj (hmoved.symm.trans hmoved')
    exact hfar

/-- `SearchEnd shift target count last moved reached`: the search has made `count` corrections and
then a last one, from `last` to `reached`. It stopped there because `last` is moved to a point near
enough to the target, because `reached` is on no sub-grid, or because the steps ran out. -/
structure SearchEnd (shift : GridShift Rat) (target : Point Rat) (count : Nat)
    (last moved reached : Point Rat) : Prop where
  count_lt : count < inverseSteps
  unfinished : shift.Unfinished target count
  estimate : shift.estimate? target count = some last
  forward : shift.forward? last = some moved
  corrected : reached = last - (moved - target)
  stopped : (moved - target).span < 1 / 10 ^ 12 ∨ shift.forward? reached = none ∨
    count + 1 = inverseSteps

/-- A miss is small enough to end the search if both of its coordinates are. -/
theorem span_lt_inverseTolerance_iff (miss : Point Rat) :
    (Scalar.lt (Scalar.abs miss.x) inverseTolerance &&
      Scalar.lt (Scalar.abs miss.y) inverseTolerance) = true ↔ miss.span < 1 / 10 ^ 12 := by
  rw [Bool.and_eq_true, Scalar.abs_rat, Scalar.abs_rat, inverseTolerance_rat, Point.span,
    max_lt_iff]
  exact and_congr decide_eq_true_iff decide_eq_true_iff

theorem searchFrom_of_none {estimate : Point Rat} (h : shift.forward? estimate = none)
    (steps : Nat) : shift.searchFrom target steps estimate = estimate := by
  cases steps with
  | zero => rfl
  | succ steps => rw [searchFrom, h]

theorem searchFrom_of_some {estimate moved : Point Rat} (h : shift.forward? estimate = some moved)
    (steps : Nat) :
    shift.searchFrom target (steps + 1) estimate =
      if (moved - target).span < 1 / 10 ^ 12 then estimate - (moved - target)
      else shift.searchFrom target steps (estimate - (moved - target)) := by
  rw [searchFrom, h]
  exact if_congr (span_lt_inverseTolerance_iff (moved - target)) rfl rfl

/-- A search from an estimate on a sub-grid makes a last correction, and gives the point that this
leads to. -/
theorem exists_searchEnd_searchFrom {steps count : Nat} {estimate moved : Point Rat}
    (hcount : count + (steps + 1) = inverseSteps) (hunfinished : shift.Unfinished target count)
    (hestimate : shift.estimate? target count = some estimate)
    (hmoved : shift.forward? estimate = some moved) :
    ∃ count last moved, shift.SearchEnd target count last moved
      (shift.searchFrom target (steps + 1) estimate) := by
  induction steps generalizing count estimate moved with
  | zero =>
    refine ⟨count, estimate, moved, by omega, hunfinished, hestimate, hmoved, ?_, ?_⟩
    · rw [searchFrom_of_some hmoved]
      exact ite_id _
    · exact .inr (.inr hcount)
  | succ steps ih =>
    rw [searchFrom_of_some hmoved]
    by_cases hnear : (moved - target).span < 1 / 10 ^ 12
    · rw [if_pos hnear]
      exact ⟨count, estimate, moved, by omega, hunfinished, hestimate, hmoved, rfl, .inl hnear⟩
    · rw [if_neg hnear]
      cases hnext : shift.forward? (estimate - (moved - target)) with
      | none =>
        rw [searchFrom_of_none hnext]
        refine ⟨count, estimate, moved, by omega, hunfinished, hestimate, hmoved, rfl, ?_⟩
        exact .inr (.inl hnext)
      | some landed =>
        have hlater := hunfinished.succ hestimate hmoved hnear
        exact ih (by omega) hlater (estimate?_succ hestimate hmoved) hnext

/-- The inverse shift fails exactly on points that are on no sub-grid. -/
theorem inverse?_eq_none_iff : shift.inverse? target = none ↔ shift.forward? target = none := by
  rw [inverse?]
  cases shift.forward? target <;> simp

/-- A point that the inverse shift gives comes from a last correction. -/
theorem exists_searchEnd {reached : Point Rat} (h : shift.inverse? target = some reached) :
    ∃ start count last moved, shift.forward? target = some start ∧
      shift.SearchEnd target count last moved reached := by
  cases hstart : shift.forward? target with
  | none =>
    rw [inverse?_eq_none_iff.2 hstart] at h
    cases h
  | some start =>
    rw [inverse?, hstart] at h
    obtain rfl := Option.some.inj h
    have hcount : 0 + (9 + 1) = inverseSteps := rfl
    have hunfinished : shift.Unfinished target 0 := fun _ hlt => absurd hlt (Nat.not_lt_zero _)
    obtain ⟨count, last, moved, hend⟩ :=
      exists_searchEnd_searchFrom hcount hunfinished rfl hstart
    exact ⟨start, count, last, moved, rfl, hend⟩

namespace SearchEnd

variable {count : Nat} {last moved reached landed start : Point Rat} {bound : Rat}

/-- Where the search ends on a sub-grid, the point that it gives is moved near the target if
displacements differ little. -/
theorem span_landed_le (h : shift.SearchEnd target count last moved reached)
    (hlanded : shift.forward? reached = some landed) (hstart : shift.forward? target = some start)
    (hbound : 0 ≤ bound) (hshift : shift.DisplacementLipschitz bound) :
    (landed - target).span ≤
      max (bound * (1 / 10 ^ 12)) (bound ^ inverseSteps * (start - target).span) := by
  have hlast : (landed - target).span ≤ bound * (moved - target).span :=
    hshift.span_miss_le h.forward h.corrected hlanded
  rcases h.stopped with hnear | hnone | hcount
  · apply le_max_of_le_left
    exact hlast.trans (mul_le_mul_of_nonneg_left hnear.le hbound)
  · rw [hlanded] at hnone
    cases hnone
  · apply le_max_of_le_right
    have hmiss : (moved - target).span ≤ bound ^ count * (start - target).span :=
      hshift.span_miss_estimate_le hbound hstart h.estimate h.forward
    calc (landed - target).span
        ≤ bound * (moved - target).span := hlast
      _ ≤ bound * (bound ^ count * (start - target).span) := mul_le_mul_of_nonneg_left hmiss hbound
      _ = bound ^ inverseSteps * (start - target).span := by rw [← hcount]; ring

/-- With displacements that differ by at most a tenth as much as the points, and a target that is
moved by at most a thousand degrees, the miss is at most a ten-millionth of a degree. -/
theorem abs_landed_le (h : shift.SearchEnd target count last moved reached)
    (hlanded : shift.forward? reached = some landed) (hstart : shift.forward? target = some start)
    (hshift : shift.DisplacementLipschitz (1 / 10)) (hfar : (start - target).span ≤ 1000) :
    |landed.x - target.x| ≤ 1 / 10 ^ 7 ∧ |landed.y - target.y| ≤ 1 / 10 ^ 7 := by
  rw [← Point.x_sub, ← Point.y_sub, ← Point.span_le_iff]
  have hmiss := h.span_landed_le hlanded hstart (by norm_num) hshift
  have hpower : ((1 : Rat) / 10) ^ inverseSteps * (start - target).span ≤ 1 / 10 ^ 7 := by
    rw [inverseSteps]
    linarith
  have hnear : (1 : Rat) / 10 * (1 / 10 ^ 12) ≤ 1 / 10 ^ 7 := by norm_num
  exact hmiss.trans (max_le hnear hpower)

end SearchEnd

/-! ## Answers -/

/-- A point is moved by the shift at it. Longitudes of shifts are positive to the west. -/
theorem exists_value_of_forward? {point moved : Point Rat} (h : shift.forward? point = some moved) :
    ∃ value, shift.value? point = some value ∧ moved.x = point.x - value.lon / 3600 ∧
      moved.y = point.y + value.lat / 3600 := by
  obtain ⟨value, hvalue, rfl⟩ := Option.map_eq_some_iff.1 h
  refine ⟨value, hvalue, ?_, ?_⟩
  · show -(-point.x * 3600 + value.lon) / 3600 = _
    ring
  · show (point.y * 3600 + value.lat) / 3600 = _
    ring

theorem value?_eq_none_iff {point : Point Rat} :
    shift.value? point = none ↔ shift.forward? point = none :=
  Option.map_eq_none_iff.symm

/-- The service answers with the point that an inverse shift gives, and the shift there. -/
theorem ofPoint_of_inverse? {reached : Point Rat} (h : shift.inverse? target = some reached) :
    Service.ShiftAnswer.ofPoint shift true target = ⟨reached, true, shift.value? reached⟩ := by
  simp [Service.ShiftAnswer.ofPoint, h]

/-! ## Uniform shifts -/

section Uniform

variable {value found : GridFile.ShiftValue Rat}

/-- `Uniform shift value`: all nodes of all sub-grids have this value. -/
def Uniform (shift : GridShift Rat) (value : GridFile.ShiftValue Rat) : Prop :=
  ∀ file ∈ shift.files, ∀ grid ∈ file.grids, ∀ node ∈ grid.nodes, node = value

theorem Uniform.value?_eq (h : shift.Uniform value) {point : Point Rat}
    (hfound : shift.value? point = some found) : found = value := by
  obtain ⟨file, hfile, hfound⟩ := List.exists_of_findSome?_eq_some hfound
  obtain ⟨grid, hgrid, hfound⟩ := Option.bind_eq_some_iff.1 hfound
  obtain ⟨place, -, hplace⟩ := List.mem_filterMap.1 (List.mem_of_find?_eq_some hgrid)
  exact GridFile.interpolate?_uniform (h file hfile grid (Array.mem_of_getElem? hplace)) hfound

/-- A uniform shift displaces all points alike. -/
theorem Uniform.displacementLipschitz (h : shift.Uniform value) :
    shift.DisplacementLipschitz 0 := by
  intro p q moved moved' hmoved hmoved'
  obtain ⟨first, hfirst, hx, hy⟩ := exists_value_of_forward? hmoved
  obtain ⟨second, hsecond, hx', hy'⟩ := exists_value_of_forward? hmoved'
  obtain rfl := h.value?_eq hfirst
  obtain rfl := h.value?_eq hsecond
  rw [zero_mul, Point.span_le_iff]
  simp [hx, hy, hx', hy']

end Uniform

/-! ## A shift by half a degree -/

/-- A sub-grid of one square degree, to the north of the equator and the west of the first meridian,
with a shift by half a degree to the north. -/
def halfDegreeFile : GridFile.StoredFile :=
  { GridFile.sampleFile with
    fileCount := 1
    unitName := "Degrees"
    grids := [
      { header := GridFile.sampleFile.sampleHeader "ALL" "NONE" ⟨0x3FF0000000000000⟩ 4
        nodes := List.replicate 4 ⟨⟨0x3F000000⟩, ⟨0⟩, ⟨0⟩, ⟨0⟩⟩ }] }

/-- The file in memory. -/
def halfDegreeSource : Resource :=
  .memory "half" (halfDegreeFile.encode .little).toArray

/-- The shift of one file. -/
def ofFile (file : GridFile Rat) : GridShift Rat where
  files := [file]

/-- The file is read with half a degree, 1800 arc-seconds, at all of its nodes. The inverse shift
leads from the northern half of the square to the southern half, and from there off the square. -/
theorem exists_halfDegree :
    ∃ file, GridFile.ofResource halfDegreeSource = .ok file ∧
      (ofFile file).Uniform ⟨1800, 0, 0, 0⟩ ∧
      (ofFile file).inverse? ⟨-1 / 2, 3 / 4⟩ = some ⟨-1 / 2, 1 / 4⟩ ∧
      (ofFile file).forward? ⟨-1 / 2, 1 / 4⟩ = some ⟨-1 / 2, 3 / 4⟩ ∧
      (ofFile file).inverse? ⟨-1 / 2, 1 / 4⟩ = some ⟨-1 / 2, -1 / 4⟩ ∧
      (ofFile file).forward? ⟨-1 / 2, -1 / 4⟩ = none := by
  have hread : (GridFile.ofResource halfDegreeSource).toOption.any fun file => decide (
      (∀ grid ∈ file.grids, ∀ node ∈ grid.nodes, node = ⟨1800, 0, 0, 0⟩) ∧
      (ofFile file).inverse? ⟨-1 / 2, 3 / 4⟩ = some ⟨-1 / 2, 1 / 4⟩ ∧
      (ofFile file).forward? ⟨-1 / 2, 1 / 4⟩ = some ⟨-1 / 2, 3 / 4⟩ ∧
      (ofFile file).inverse? ⟨-1 / 2, 1 / 4⟩ = some ⟨-1 / 2, -1 / 4⟩ ∧
      (ofFile file).forward? ⟨-1 / 2, -1 / 4⟩ = none) := by
    decide +kernel
  obtain ⟨file, hfile, hread⟩ := Except.exists_of_any_toOption hread
  obtain ⟨huniform, hrest⟩ := of_decide_eq_true hread
  refine ⟨file, hfile, ?_, hrest⟩
  intro other hother
  obtain rfl := List.mem_singleton.1 hother
  exact huniform

/-! ## Points that the inverse shift gives -/

/-- The inverse shift succeeds exactly on the points that are on a sub-grid, and the point that it
gives comes from a last correction. If that point is on no sub-grid, it is answered as shifted, but
without a shift. If it is on one, the answer has the shift that moves it, and it misses the target
by the difference of its displacement from that of the point before. So it is moved near the target
where displacements differ little. -/
theorem inverse?_lands (shift : GridShift Rat) (target : Point Rat) :
    (shift.inverse? target = none ↔ shift.forward? target = none) ∧
      ∀ reached, shift.inverse? target = some reached →
        ∃ start count last moved, shift.forward? target = some start ∧
          shift.SearchEnd target count last moved reached ∧
          (shift.forward? reached = none →
            Service.ShiftAnswer.ofPoint shift true target = ⟨reached, true, none⟩) ∧
          ∀ landed, shift.forward? reached = some landed →
            (∃ value,
              Service.ShiftAnswer.ofPoint shift true target = ⟨reached, true, some value⟩ ∧
              landed.x = reached.x - value.lon / 3600 ∧
              landed.y = reached.y + value.lat / 3600) ∧
            landed - target = (landed - reached) - (moved - last) ∧
            (∀ bound, 0 ≤ bound → shift.DisplacementLipschitz bound →
              (landed - target).span ≤
                max (bound * (1 / 10 ^ 12)) (bound ^ inverseSteps * (start - target).span)) ∧
            (shift.DisplacementLipschitz (1 / 10) → (start - target).span ≤ 1000 →
              |landed.x - target.x| ≤ 1 / 10 ^ 7 ∧ |landed.y - target.y| ≤ 1 / 10 ^ 7) := by
  refine ⟨inverse?_eq_none_iff, fun reached h => ?_⟩
  obtain ⟨start, count, last, moved, hstart, hend⟩ := exists_searchEnd h
  have hanswer := ofPoint_of_inverse? h
  refine ⟨start, count, last, moved, hstart, hend, fun hnone => ?_, fun landed hlanded => ?_⟩
  · rw [hanswer, value?_eq_none_iff.2 hnone]
  · obtain ⟨value, hvalue, hx, hy⟩ := exists_value_of_forward? hlanded
    rw [hvalue] at hanswer
    refine ⟨⟨value, hanswer, hx, hy⟩, miss_of_correction hend.corrected, ?_, ?_⟩
    · intro bound hbound hshift
      exact hend.span_landed_le hlanded hstart hbound hshift
    · exact hend.abs_landed_le hlanded hstart

/-- From the northern half of the square the inverse shift leads to the very point that is moved to
the given one. -/
theorem inverse?_lands_halfDegree :
    ∃ file landed value, GridFile.ofResource halfDegreeSource = .ok file ∧
      (ofFile file).inverse? ⟨-1 / 2, 3 / 4⟩ = some ⟨-1 / 2, 1 / 4⟩ ∧
      (ofFile file).forward? ⟨-1 / 2, 1 / 4⟩ = some landed ∧
      Service.ShiftAnswer.ofPoint (ofFile file) true ⟨-1 / 2, 3 / 4⟩ =
        ⟨⟨-1 / 2, 1 / 4⟩, true, some value⟩ ∧
      (ofFile file).DisplacementLipschitz 0 ∧ (landed - ⟨-1 / 2, 3 / 4⟩).span ≤ 0 := by
  obtain ⟨file, hread, huniform, hinverse, hforward, -, -⟩ := exists_halfDegree
  obtain ⟨-, hlands⟩ := inverse?_lands (ofFile file) ⟨-1 / 2, 3 / 4⟩
  obtain ⟨start, count, last, moved, -, -, -, hlands⟩ := hlands _ hinverse
  obtain ⟨⟨value, hanswer, -, -⟩, -, hmiss, -⟩ := hlands _ hforward
  have hlipschitz := huniform.displacementLipschitz
  have hexact := hmiss 0 le_rfl hlipschitz
  rw [zero_mul, zero_pow (by decide), zero_mul, max_self] at hexact
  exact ⟨file, _, value, hread, hinverse, hforward, hanswer, hlipschitz, hexact⟩

/-- From the southern half of the square the inverse shift succeeds with a point off the square,
which no shift moves anywhere. -/
theorem exists_inverse?_uncovered :
    ∃ file target reached, GridFile.ofResource halfDegreeSource = .ok file ∧
      (ofFile file).inverse? target = some reached ∧ (ofFile file).forward? reached = none ∧
      Service.ShiftAnswer.ofPoint (ofFile file) true target = ⟨reached, true, none⟩ := by
  obtain ⟨file, hread, -, -, -, hinverse, huncovered⟩ := exists_halfDegree
  refine ⟨file, _, _, hread, hinverse, huncovered, ?_⟩
  rw [ofPoint_of_inverse? hinverse, value?_eq_none_iff.2 huncovered]

end GridShift

end Georef
