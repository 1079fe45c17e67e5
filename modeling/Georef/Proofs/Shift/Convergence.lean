import Georef.Proofs.Shift.RoundTrip

/-!
# How near the inverse shift comes

A corrected estimate is the target less the displacement of the estimate before. So where
displacements differ by less than the points do, the search repeats a contraction, and the point
that is moved to the target is its fixed point. Each correction leaves a part of the error, and ten
of them the tenth power of this part. The search may also end before, as a miss is small enough; the
estimate that misses is then near the point, and the correction that is still made leaves a part of
that error too.

All of this needs estimates that are on sub-grids. The factor may be any number below one: where it
is negative no two points are on sub-grids, and there is nothing to correct. Numbers are exact here.

The module introduces:

* `GridShift.Stays shift target` — the search for a target never leaves the sub-grids.

`GridShift.inverse?_converges` says how near to a point the inverse shift of its image comes;
`GridShift.inverse?_converges_slope` is a shift on which it comes no nearer than that.
-/

namespace Georef

namespace GridShift

variable {shift : GridShift Rat} {p q : Point Rat} {bound : Rat}

/-! ## Factors -/

theorem DisplacementLipschitz.mono (hshift : shift.DisplacementLipschitz bound) {greater : Rat}
    (hle : bound ≤ greater) : shift.DisplacementLipschitz greater := by
  intro p q moved moved' hmoved hmoved'
  calc ((moved' - q) - (moved - p)).span
      ≤ bound * (p - q).span := hshift p q moved moved' hmoved hmoved'
    _ ≤ greater * (p - q).span := mul_le_mul_of_nonneg_right hle (Point.span_nonneg _)

/-! ## Searches that never leave the sub-grids -/

/-- `Stays shift target`: all estimates at which the search asks for the shift are on sub-grids. It
asks for no more of them once it has come to its end. -/
def Stays (shift : GridShift Rat) (target : Point Rat) : Prop :=
  ∀ count < inverseSteps, ∀ estimate : Point Rat, shift.Unfinished target count →
    shift.estimate? target count = some estimate → shift.forward? estimate ≠ none

/-- Such a search begins on a sub-grid. -/
theorem Stays.forward?_ne_none (h : shift.Stays q) : shift.forward? q ≠ none :=
  h 0 (by decide) q (fun _ hlt => absurd hlt (Nat.not_lt_zero _)) rfl

/-- Such a search ends by a small miss, or because the steps run out. -/
theorem SearchEnd.stopped_of_stays {count : Nat} {last moved reached : Point Rat}
    (h : shift.SearchEnd q count last moved reached) (hstays : shift.Stays q) :
    (moved - q).span < 1 / 10 ^ 12 ∨ count + 1 = inverseSteps := by
  by_contra hgoes
  obtain ⟨hfar, hmore⟩ := not_or.1 hgoes
  -- otherwise the search goes on, and asks for the shift at the point that it has reached
  have hcount : count + 1 < inverseSteps := lt_of_le_of_ne h.count_lt hmore
  have hnext := estimate?_succ h.estimate h.forward
  rw [← h.corrected] at hnext
  have hreached : shift.forward? reached ≠ none :=
    hstays _ hcount reached (h.unfinished.succ h.estimate h.forward hfar) hnext
  rcases h.stopped with hnear | hnone | hlast
  · exact hfar hnear
  · exact hreached hnone
  · exact hmore hlast

/-- The error that a search leaves, for a factor that is not negative. -/
theorem exists_inverse?_of_stays (hbound : 0 ≤ bound) (hone : bound < 1)
    (hshift : shift.DisplacementLipschitz bound) (hpoint : shift.forward? p = some q)
    (hstays : shift.Stays q) :
    ∃ r, shift.inverse? q = some r ∧
      (r - p).span ≤ max (bound ^ 10 * (q - p).span) (bound * (1 / 10 ^ 12) / (1 - bound)) := by
  have hsuccess : shift.inverse? q ≠ none := by
    rw [Ne, inverse?_eq_none_iff]
    exact hstays.forward?_ne_none
  obtain ⟨r, hinverse⟩ := Option.ne_none_iff_exists'.1 hsuccess
  obtain ⟨-, count, last, moved, -, hend⟩ := exists_searchEnd hinverse
  refine ⟨r, hinverse, ?_⟩
  rw [mul_div_right_comm]
  exact hend.span_error_le_of_stopped hpoint hbound (hshift.steadyAround p) hone
    (hend.stopped_of_stays hstays)

/-- Where displacements differ by at most `bound` times as much as the points do, a search that
never leaves the sub-grids leads back from the image of a point to near this point. The error is at
most the tenth power of the factor, as a part of the displacement, or what a small miss leaves. -/
theorem inverse?_converges (hone : bound < 1) (hshift : shift.DisplacementLipschitz bound)
    (hpoint : shift.forward? p = some q) (hstays : shift.Stays q) :
    ∃ r, shift.inverse? q = some r ∧
      (r - p).span ≤ max (bound ^ 10 * (q - p).span) (bound * (1 / 10 ^ 12) / (1 - bound)) := by
  rcases le_or_gt 0 bound with hbound | hneg
  · exact exists_inverse?_of_stays hbound hone hshift hpoint hstays
  · -- points do not differ by less than nothing, so that zero is a factor as well
    obtain ⟨r, hinverse, herror⟩ :=
      exists_inverse?_of_stays le_rfl one_pos (hshift.mono hneg.le) hpoint hstays
    refine ⟨r, hinverse, herror.trans (le_max_of_le_left ?_)⟩
    have hpower : 0 ≤ bound ^ 10 * (q - p).span :=
      mul_nonneg (Even.pow_nonneg (by decide) bound) (Point.span_nonneg _)
    simpa using hpower

/-! ## The steep slope -/

/-- Displacements differ by half as much as the latitudes do. -/
theorem displacementLipschitz_slope : (ofFile slope).DisplacementLipschitz (1 / 2) := by
  have hfactor : (1800 : Rat) / 3600 = 1 / 2 := by norm_num
  exact hfactor ▸ displacementLipschitz_rising (by norm_num)

/-- On the slope from a quarter of a degree to a half and back: the steps run out, and the error is
the tenth power of a half of this quarter. -/
theorem inverse?_converges_slope :
    GridFile.ofResource slopeSource = .ok slope ∧
      (ofFile slope).DisplacementLipschitz (1 / 2) ∧ (ofFile slope).Stays ⟨-1 / 2, 1 / 2⟩ ∧
      (ofFile slope).forward? ⟨-1 / 2, 1 / 4⟩ = some ⟨-1 / 2, 1 / 2⟩ ∧
      ∃ r, (ofFile slope).inverse? ⟨-1 / 2, 1 / 2⟩ = some r ∧
        (r - ⟨-1 / 2, 1 / 4⟩).span ≤ 1 / 2 ^ 12 ∧ r - ⟨-1 / 2, 1 / 4⟩ = ⟨0, 1 / 2 ^ 12⟩ := by
  have hforward : (ofFile slope).forward? ⟨-1 / 2, 1 / 4⟩ = some ⟨-1 / 2, 1 / 2⟩ := by
    decide +kernel
  have hreached : (ofFile slope).inverse? ⟨-1 / 2, 1 / 2⟩ = some ⟨-1 / 2, 1025 / 4096⟩ := by
    decide +kernel
  -- the latitudes of the estimates swing about a quarter of a degree, by half as much each time
  have hcovered : ∀ count < inverseSteps,
      ((ofFile slope).estimate? ⟨-1 / 2, 1 / 2⟩ count).all
        fun estimate => ((ofFile slope).forward? estimate).isSome := by
    decide +kernel
  have hstays : (ofFile slope).Stays ⟨-1 / 2, 1 / 2⟩ := by
    intro count hcount estimate _ hestimate
    have hsome := hcovered count hcount
    rw [hestimate, Option.all_some] at hsome
    exact Option.isSome_iff_ne_none.1 hsome
  obtain ⟨r, hinverse, herror⟩ :=
    inverse?_converges (by norm_num) displacementLipschitz_slope hforward hstays
  obtain rfl := Option.some.inj (hreached.symm.trans hinverse)
  refine ⟨ofResource_slope, displacementLipschitz_slope, hstays, hforward, _, hinverse, ?_, ?_⟩
  · refine herror.trans (max_le ?_ ?_) <;> decide +kernel
  · decide +kernel

end GridShift

end Georef
