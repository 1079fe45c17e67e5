import Georef.Proofs.Shift.Slopes

/-!
# From a point to its image and back

The inverse shift is given the point that another one is moved to. It fails if that image is on no
sub-grid. Otherwise it gives a point, which misses the first one by as much as its displacement
differs from that of the last estimate. So the error is a matter of how much displacements vary near
the first point: where they differ from its own by less than the points do, each correction makes
the error smaller.

The steps may run out before the error is small, and a corrected estimate may leave the sub-grids,
which ends the search as well. Numbers are exact here.

The module introduces:

* `GridShift.SteadyAround shift p bound` — points that are no further from `p` than its image is are
  displaced as `p` is, but for `bound` times their distance from `p`.

`GridShift.inverse?_forward?` says what the inverse shift makes of the image of a point;
`GridShift.exists_round_trip_missed` is a shift on which the way back fails, or ends elsewhere.
-/

namespace Georef

/-! ## Differences of points -/

namespace Point

variable (p q : Point Rat)

theorem span_sub_comm : (p - q).span = (q - p).span := by
  simp only [span, x_sub, y_sub, abs_sub_comm]

theorem span_sub_le : (p - q).span ≤ p.span + q.span := by
  obtain ⟨hpx, hpy⟩ := span_le_iff.1 (le_refl p.span)
  obtain ⟨hqx, hqy⟩ := span_le_iff.1 (le_refl q.span)
  rw [span_le_iff]
  exact ⟨(abs_sub p.x q.x).trans (add_le_add hpx hqx), (abs_sub p.y q.y).trans (add_le_add hpy hqy)⟩

end Point

namespace GridShift

variable {shift : GridShift Rat} {p q : Point Rat} {bound : Rat}

/-! ## Errors of estimates -/

/-- `SteadyAround shift p bound`: the displacement of a point that is no further from `p` than the
image of `p` is differs from the displacement of `p` by at most `bound` times its distance from
`p`. -/
def SteadyAround (shift : GridShift Rat) (p : Point Rat) (bound : Rat) : Prop :=
  ∀ q s landed : Point Rat, shift.forward? p = some q → shift.forward? s = some landed →
    (s - p).span ≤ (q - p).span → ((landed - s) - (q - p)).span ≤ bound * (s - p).span

theorem DisplacementLipschitz.steadyAround (hshift : shift.DisplacementLipschitz bound)
    (p : Point Rat) : shift.SteadyAround p bound := by
  intro q s landed hpoint hlanded _
  rw [Point.span_sub_comm s p]
  exact hshift p s q landed hpoint hlanded

/-- The error of a corrected estimate is the difference of displacements. -/
theorem error_of_correction {estimate moved corrected : Point Rat}
    (h : corrected = estimate - (moved - q)) : corrected - p = (q - p) - (moved - estimate) := by
  subst h
  ext <;> simp only [Point.x_sub, Point.y_sub] <;> ring

/-- Powers of a factor of at most one do not make a span greater. -/
theorem pow_mul_span_le (hbound : 0 ≤ bound) (hone : bound ≤ 1) (count : Nat) :
    bound ^ count * p.span ≤ p.span :=
  mul_le_of_le_one_left p.span_nonneg (pow_le_one₀ hbound hone)

namespace SteadyAround

variable (hshift : shift.SteadyAround p bound) (hpoint : shift.forward? p = some q)

include hshift hpoint

/-- One correction makes the error smaller by the factor that bounds the displacements. -/
theorem span_error_le {estimate moved corrected : Point Rat}
    (hmoved : shift.forward? estimate = some moved) (hnear : (estimate - p).span ≤ (q - p).span)
    (hcorrected : corrected = estimate - (moved - q)) :
    (corrected - p).span ≤ bound * (estimate - p).span := by
  rw [error_of_correction hcorrected, Point.span_sub_comm]
  exact hshift q estimate moved hpoint hmoved hnear

/-- Corrections make the error smaller by a power of this factor. -/
theorem span_error_estimate_le (hbound : 0 ≤ bound) (hone : bound ≤ 1) {count : Nat}
    {estimate : Point Rat} (hestimate : shift.estimate? q count = some estimate) :
    (estimate - p).span ≤ bound ^ count * (q - p).span := by
  induction count generalizing estimate with
  | zero =>
    obtain rfl := Option.some.inj hestimate
    simp
  | succ count ih =>
    obtain ⟨before, hbefore, hrest⟩ := Option.bind_eq_some_iff.1 hestimate
    obtain ⟨moved, hmoved, hcorrected⟩ := Option.bind_eq_some_iff.1 hrest
    have hcorrected : estimate = before - (moved - q) := (Option.some.inj hcorrected).symm
    -- earlier estimates are near enough for their displacements to be bounded
    have hnear : (before - p).span ≤ (q - p).span :=
      (ih hbefore).trans (pow_mul_span_le hbound hone count)
    calc (estimate - p).span
        ≤ bound * (before - p).span := hshift.span_error_le hpoint hmoved hnear hcorrected
      _ ≤ bound * (bound ^ count * (q - p).span) := mul_le_mul_of_nonneg_left (ih hbefore) hbound
      _ = bound ^ (count + 1) * (q - p).span := by ring

/-- No estimate is further from the point than its image is. -/
theorem span_error_estimate_le_span (hbound : 0 ≤ bound) (hone : bound ≤ 1) {count : Nat}
    {estimate : Point Rat} (hestimate : shift.estimate? q count = some estimate) :
    (estimate - p).span ≤ (q - p).span :=
  (hshift.span_error_estimate_le hpoint hbound hone hestimate).trans
    (pow_mul_span_le hbound hone count)

/-- An estimate that misses the image by little is near the point. -/
theorem span_error_le_of_miss {estimate moved : Point Rat}
    (hmoved : shift.forward? estimate = some moved) (hnear : (estimate - p).span ≤ (q - p).span) :
    (1 - bound) * (estimate - p).span ≤ (moved - q).span := by
  have hsplit : estimate - p = (moved - q) - ((moved - estimate) - (q - p)) := by
    ext <;> simp only [Point.x_sub, Point.y_sub] <;> ring
  have hsum : (estimate - p).span ≤ (moved - q).span + bound * (estimate - p).span :=
    calc (estimate - p).span
        = ((moved - q) - ((moved - estimate) - (q - p))).span := congrArg Point.span hsplit
      _ ≤ (moved - q).span + ((moved - estimate) - (q - p)).span := Point.span_sub_le _ _
      _ ≤ (moved - q).span + bound * (estimate - p).span := by
          gcongr
          exact hshift q estimate moved hpoint hmoved hnear
  linarith

end SteadyAround

/-! ## The error of a search -/

namespace SearchEnd

variable {count : Nat} {last moved reached : Point Rat}
  (h : shift.SearchEnd q count last moved reached) (hpoint : shift.forward? p = some q)
  (hbound : 0 ≤ bound) (hshift : shift.SteadyAround p bound)

include h hpoint hbound hshift

/-- Unless a corrected estimate has left the sub-grids, the error is a power of the factor that
bounds the displacements, or the search came to an end before by a small miss. -/
theorem span_error_le_of_stopped (hone : bound < 1)
    (hstopped : (moved - q).span < 1 / 10 ^ 12 ∨ count + 1 = inverseSteps) :
    (reached - p).span ≤
      max (bound ^ inverseSteps * (q - p).span) (bound / (1 - bound) * (1 / 10 ^ 12)) := by
  have hnear := hshift.span_error_estimate_le_span hpoint hbound hone.le h.estimate
  have hlast : (reached - p).span ≤ bound * (last - p).span :=
    hshift.span_error_le hpoint h.forward hnear h.corrected
  rcases hstopped with hmiss | hcount
  · apply le_max_of_le_right
    have hrest : 0 < 1 - bound := sub_pos.2 hone
    have herror : (last - p).span ≤ 1 / 10 ^ 12 / (1 - bound) := by
      rw [le_div_iff₀' hrest]
      exact (hshift.span_error_le_of_miss hpoint h.forward hnear).trans hmiss.le
    calc (reached - p).span
        ≤ bound * (last - p).span := hlast
      _ ≤ bound * (1 / 10 ^ 12 / (1 - bound)) := mul_le_mul_of_nonneg_left herror hbound
      _ = bound / (1 - bound) * (1 / 10 ^ 12) := by ring
  · apply le_max_of_le_left
    have herror := hshift.span_error_estimate_le hpoint hbound hone.le h.estimate
    calc (reached - p).span
        ≤ bound * (last - p).span := hlast
      _ ≤ bound * (bound ^ count * (q - p).span) := mul_le_mul_of_nonneg_left herror hbound
      _ = bound ^ inverseSteps * (q - p).span := by rw [← hcount]; ring

/-- So it is where the search ends on a sub-grid. -/
theorem span_error_le (hreached : shift.forward? reached ≠ none) (hone : bound < 1) :
    (reached - p).span ≤
      max (bound ^ inverseSteps * (q - p).span) (bound / (1 - bound) * (1 / 10 ^ 12)) := by
  apply h.span_error_le_of_stopped hpoint hbound hshift hone
  rcases h.stopped with hmiss | hnone | hcount
  · exact .inl hmiss
  · exact absurd hnone hreached
  · exact .inr hcount

/-- With a factor that is not too near to one and of which ten steps make enough, the error is at
most a ten-millionth of a degree. -/
theorem abs_error_le (hreached : shift.forward? reached ≠ none) (hsmall : bound ≤ 99999 / 100000)
    (hsteps : bound ^ inverseSteps * (q - p).span ≤ 1 / 10 ^ 7) :
    |reached.x - p.x| ≤ 1 / 10 ^ 7 ∧ |reached.y - p.y| ≤ 1 / 10 ^ 7 := by
  rw [← Point.x_sub, ← Point.y_sub, ← Point.span_le_iff]
  have hone : bound < 1 := hsmall.trans_lt (by norm_num)
  have hratio : bound / (1 - bound) ≤ 99999 := by
    rw [div_le_iff₀ (sub_pos.2 hone)]
    linarith
  have hmiss : bound / (1 - bound) * (1 / 10 ^ 12) ≤ 1 / 10 ^ 7 := by linarith
  exact (h.span_error_le hpoint hbound hshift hreached hone).trans (max_le hsteps hmiss)

/-- The search does not end further from the point than its image is. -/
theorem span_error_le_span (hone : bound ≤ 1) : (reached - p).span ≤ (q - p).span := by
  have hnext := estimate?_succ h.estimate h.forward
  rw [← h.corrected] at hnext
  exact hshift.span_error_estimate_le_span hpoint hbound hone hnext

end SearchEnd

/-! ## The way back -/

/-- The inverse shift fails on the image of a point just where that is on no sub-grid. Otherwise its
error is the difference between the displacements of the point and of the last estimate. Where
displacements near the point vary by less than the points do, by a factor for which ten steps are
enough, and the search ends on a sub-grid, the way back leads to within a ten-millionth of a degree.
It ends on a sub-grid if all points are on one that are no further from the point than its image. -/
theorem inverse?_forward? (hpoint : shift.forward? p = some q) :
    (shift.inverse? q = none ↔ shift.forward? q = none) ∧
      (∀ r, shift.inverse? q = some r → ∃ count last moved,
        shift.SearchEnd q count last moved r ∧ r - p = (q - p) - (moved - last)) ∧
      ∀ bound, 0 ≤ bound → bound ≤ 99999 / 100000 →
        bound ^ inverseSteps * (q - p).span ≤ 1 / 10 ^ 7 → shift.SteadyAround p bound →
          (∀ r, shift.inverse? q = some r → shift.forward? r ≠ none →
            |r.x - p.x| ≤ 1 / 10 ^ 7 ∧ |r.y - p.y| ≤ 1 / 10 ^ 7) ∧
          ((∀ s : Point Rat, (s - p).span ≤ (q - p).span → shift.forward? s ≠ none) →
            ∃ r, shift.inverse? q = some r ∧ shift.forward? r ≠ none) := by
  refine ⟨inverse?_eq_none_iff, fun r hinverse => ?_, fun bound hbound hsmall hsteps hshift =>
    ⟨fun r hinverse hreached => ?_, fun hcovered => ?_⟩⟩
  · obtain ⟨-, count, last, moved, -, hend⟩ := exists_searchEnd hinverse
    exact ⟨count, last, moved, hend, error_of_correction hend.corrected⟩
  · obtain ⟨-, count, last, moved, -, hend⟩ := exists_searchEnd hinverse
    exact hend.abs_error_le hpoint hbound hshift hreached hsmall hsteps
  · have hsuccess : shift.inverse? q ≠ none := by
      rw [Ne, inverse?_eq_none_iff]
      exact hcovered q le_rfl
    obtain ⟨r, hinverse⟩ := Option.ne_none_iff_exists'.1 hsuccess
    obtain ⟨-, count, last, moved, -, hend⟩ := exists_searchEnd hinverse
    have hone : bound ≤ 1 := hsmall.trans (by norm_num)
    exact ⟨r, hinverse, hcovered r (hend.span_error_le_span hpoint hbound hshift hone)⟩

/-- On the gentle slope and back. Displacements differ by an eighth of what the latitudes differ by,
so ten steps are enough, but the way back does not lead to the very point. -/
theorem inverse?_forward?_gentle :
    GridFile.ofResource gentleSource = .ok gentle ∧
      (ofFile gentle).forward? ⟨-1 / 2, 1 / 4⟩ = some ⟨-1 / 2, 13 / 32⟩ ∧
      (ofFile gentle).SteadyAround ⟨-1 / 2, 1 / 4⟩ (1 / 8) ∧
      ∃ r, (ofFile gentle).inverse? ⟨-1 / 2, 13 / 32⟩ = some r ∧
        (ofFile gentle).forward? r ≠ none ∧
        |r.x - -1 / 2| ≤ 1 / 10 ^ 7 ∧ |r.y - 1 / 4| ≤ 1 / 10 ^ 7 ∧ r.y ≠ 1 / 4 := by
  have hforward : (ofFile gentle).forward? ⟨-1 / 2, 1 / 4⟩ = some ⟨-1 / 2, 13 / 32⟩ := by
    decide +kernel
  have hlipschitz : (ofFile gentle).DisplacementLipschitz (450 / 3600) :=
    displacementLipschitz_rising (by norm_num)
  have hsteady : (ofFile gentle).SteadyAround ⟨-1 / 2, 1 / 4⟩ (1 / 8) := by
    have hfactor : (450 : Rat) / 3600 = 1 / 8 := by norm_num
    exact hfactor ▸ hlipschitz.steadyAround _
  have hsteps : (1 / 8 : Rat) ^ inverseSteps *
      ((⟨-1 / 2, 13 / 32⟩ : Point Rat) - ⟨-1 / 2, 1 / 4⟩).span ≤ 1 / 10 ^ 7 := by
    decide +kernel
  -- the points that are no further away than the image are on the square
  have hcovered : ∀ s : Point Rat,
      (s - ⟨-1 / 2, 1 / 4⟩).span ≤ ((⟨-1 / 2, 13 / 32⟩ : Point Rat) - ⟨-1 / 2, 1 / 4⟩).span →
      (ofFile gentle).forward? s ≠ none := by
    intro s hnear
    have hspan : ((⟨-1 / 2, 13 / 32⟩ : Point Rat) - ⟨-1 / 2, 1 / 4⟩).span = 5 / 32 := by
      decide +kernel
    rw [hspan, Point.span_le_iff, Point.x_sub, Point.y_sub, abs_le, abs_le] at hnear
    obtain ⟨⟨hwest, heast⟩, hsouth, hnorth⟩ := hnear
    exact forward?_rising_ne_none (by constructor <;> linarith) (by constructor <;> linarith)
  obtain ⟨-, -, hback⟩ := inverse?_forward? hforward
  obtain ⟨hnear, hends⟩ := hback (1 / 8) (by norm_num) (by norm_num) hsteps hsteady
  obtain ⟨r, hinverse, hreached⟩ := hends hcovered
  obtain ⟨hx, hy⟩ := hnear r hinverse hreached
  have hmissed : ((ofFile gentle).inverse? ⟨-1 / 2, 13 / 32⟩).all fun r => r.y ≠ 1 / 4 := by
    decide +kernel
  rw [hinverse, Option.all_some] at hmissed
  exact ⟨ofResource_gentle, hforward, hsteady, r, hinverse, hreached, hx, hy,
    of_decide_eq_true hmissed⟩

/-- Where the shift grows to the north, there are points whose image is off the square, from which
there is no way back; others, of which the search leaves the square; and others, for which ten steps
are not enough. -/
theorem exists_round_trip_missed :
    ∃ file, GridFile.ofResource slopeSource = .ok file ∧
      (∃ p q, (ofFile file).forward? p = some q ∧ (ofFile file).inverse? q = none) ∧
      (∃ p q r, (ofFile file).forward? p = some q ∧ (ofFile file).inverse? q = some r ∧
        (ofFile file).forward? r = none ∧ 1 / 10 ^ 7 < |r.y - p.y|) ∧
      ∃ p q r, (ofFile file).forward? p = some q ∧ (ofFile file).inverse? q = some r ∧
        (ofFile file).forward? r ≠ none ∧ 1 / 10 ^ 7 < |r.y - p.y| := by
  refine ⟨slope, ofResource_slope, ?_, ?_, ?_⟩
  · exact ⟨⟨-1 / 2, 3 / 4⟩, ⟨-1 / 2, 5 / 4⟩, by decide +kernel, by decide +kernel⟩
  · refine ⟨⟨-1 / 2, 1 / 32⟩, ⟨-1 / 2, 11 / 64⟩, ⟨-1 / 2, -5 / 128⟩, ?_⟩
    decide +kernel
  · refine ⟨⟨-1 / 2, 1 / 4⟩, ⟨-1 / 2, 1 / 2⟩, ⟨-1 / 2, 1025 / 4096⟩, ?_⟩
    decide +kernel

end GridShift

end Georef
