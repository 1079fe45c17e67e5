import Georef.Proofs.Doubles.Counting

/-!
# Signs of results

The difference of a number and a smaller one has no negative sign, and neither has the quotient of
such numbers; rounding keeps signs. Steps between two bounds are counted this way: the difference of
the bounds divided by a positive increment, rounded to a whole number.

The module introduces:

* `positive_sub`, `positive_div` — signs of differences and quotients.
* `counts_round_add_one` — a positive double rounded to a whole number, and one added to it, counts.
-/

namespace Georef

open Float.Model (Format UnpackedFloat)
open Float.Model.UnpackedFloat (Accuracy Sign roundWithAccuracy decreaseExponent)

namespace Double

/-! ## Differences -/

theorem positive_roundWithAccuracy (significand : Nat) (exponent : Int) (accuracy : Accuracy) :
    Positive (roundWithAccuracy .binary64 .positive significand exponent accuracy) := by
  rw [roundWithAccuracy]
  simp only
  split <;> exact rfl

theorem positive_normalize {significand : Int} (h : 0 < significand) (exponent : Int) :
    Positive (UnpackedFloat.normalize .binary64 significand exponent .positive) := by
  obtain ⟨n, rfl⟩ := Int.eq_ofNat_of_zero_le (Int.le_of_lt h)
  rw [normalize_natCast (Int.ofNat_lt.1 h), UnpackedFloat.round]
  exact positive_roundWithAccuracy _ _ _

/-- The order of canonical forms is that of the significands brought to one exponent. -/
theorem shiftLeft_lt_shiftLeft {a b : Nat} {e f least : Int} (ha : a < 2 ^ 53) (hmin : -1074 ≤ e)
    (hb : f = -1074 ∨ 2 ^ 52 ≤ b) (h : e < f ∨ e = f ∧ a < b) (hleast : least ≤ e) :
    a <<< (e - least).toNat < b <<< (f - least).toNat := by
  have hgap : a < b * 2 ^ (f - e).toNat := by
    rcases h with h | ⟨rfl, h⟩
    · obtain ⟨count, hcount⟩ := Int.eq_ofNat_of_zero_le (show 0 ≤ f - e - 1 by omega)
      -- an exponent above the least one comes with a full significand
      have hfull : 2 ^ 52 ≤ b := by omega
      have hpow := Nat.two_pow_pos count
      calc a < 2 ^ 52 * 2 := ha
        _ ≤ b * 2 ^ (count + 1) :=
          Nat.mul_le_mul hfull (Nat.pow_le_pow_right Nat.two_pos (Nat.le_add_left 1 count))
        _ = b * 2 ^ (f - e).toNat := by
          congr 2
          omega
    · rwa [Int.sub_self, Int.toNat_zero, Nat.pow_zero, Nat.mul_one]
  have hsplit : (f - least).toNat = (f - e).toNat + (e - least).toNat := by omega
  rw [Nat.shiftLeft_eq, Nat.shiftLeft_eq, hsplit, Nat.pow_add, ← Nat.mul_assoc]
  exact Nat.mul_lt_mul_of_pos_right hgap (Nat.two_pow_pos _)

/-- What a comparison of exponents and significands says. -/
theorem lt_or_eq_and_lt {a b : Nat} {e f : Int}
    (h : (compare e f).then (compare a b) = .lt) : e < f ∨ e = f ∧ a < b := by
  rwa [Ordering.then_eq_lt, Int.compare_eq_lt, Int.compare_eq_eq, Nat.compare_eq_lt] at h

theorem positive_sub_of_lt {u v : UnpackedFloat} (hu : Canonical u) (hv : Canonical v)
    (h : v.lt u) : Positive (.sub .binary64 u v) := by
  -- infinities and zeros are told apart by their signs, numbers by what they stand for
  have horder : v.compare u = some .lt := eq_of_beq h
  cases u with
  | notANumber => trivial
  | infinity sign =>
    cases v with
    | notANumber => trivial
    | infinity sign' => cases sign <;> cases sign' <;> first | rfl | cases horder
    | zero sign' => cases sign <;> first | rfl | cases horder
    | finite sign' b f hb => cases sign <;> first | rfl | cases horder
  | zero sign =>
    cases v with
    | notANumber => trivial
    | infinity sign' => cases sign' <;> first | rfl | cases horder
    | zero sign' => cases horder
    | finite sign' b f hb => cases sign' <;> first | rfl | cases horder
  | finite sign a e ha =>
    cases v with
    | notANumber => trivial
    | infinity sign' => cases sign' <;> first | rfl | cases horder
    | zero sign' => cases sign <;> first | rfl | cases horder
    | finite sign' b f hb =>
      refine positive_normalize ?_ _
      obtain ⟨hau, hemin, hafull⟩ := hu
      obtain ⟨hbv, hfmin, hbfull⟩ := hv
      have hleft : min e f ≤ e := Int.min_le_left e f
      have hright : min e f ≤ f := Int.min_le_right e f
      -- signs decide, and where they are the same, the order of the significands does
      cases sign with
      | negative =>
        cases sign' with
        | negative =>
          rw [UnpackedFloat.compare, Option.some_inj, Ordering.swap_eq_lt, Ordering.then_eq_gt,
            Int.compare_eq_gt, Int.compare_eq_eq, Nat.compare_eq_gt] at horder
          have hshift := shiftLeft_lt_shiftLeft hau hemin hbfull
            (horder.imp_right fun h => ⟨h.1.symm, h.2⟩) hleft
          simp only [Sign.apply]
          omega
        | positive => cases horder
      | positive =>
        cases sign' with
        | negative =>
          have hshift : 0 < a <<< (e - min e f).toNat := Nat.shiftLeft_pos_iff.2 ha
          have hshift' : 0 ≤ ((b <<< (f - min e f).toNat : Nat) : Int) := Int.natCast_nonneg _
          simp only [Sign.apply]
          omega
        | positive =>
          rw [UnpackedFloat.compare, Option.some_inj] at horder
          have hshift := shiftLeft_lt_shiftLeft hbv hfmin hafull (lt_or_eq_and_lt horder) hright
          simp only [Sign.apply]
          omega

/-- The difference of a number and a smaller one. -/
theorem positive_sub {x y : Float} (h : Scalar.gt x y) : Positive (parts (x - y)) := by
  rw [gt_eq] at h
  rw [parts_sub]
  exact (positive_sub_of_lt (canonical_unpack _) (canonical_unpack _) h).stored

/-! ## Quotients -/

theorem positive_of_gt_zero {x : Float} (h : Scalar.gt x (Scalar.ofNat 0)) :
    Positive (parts x) := by
  have hzero : parts (Scalar.ofNat 0) = .zero .positive := parts_toFloat (by decide)
  rw [gt_eq, hzero] at h
  match hx : parts x with
  | .notANumber => trivial
  | .infinity .positive => rfl
  | .finite .positive .. => rfl
  | .infinity .negative | .zero _ | .finite .negative .. =>
    rw [hx] at h
    cases h

/-- The quotient of numbers with the same sign. -/
theorem positive_div {x y : Float} (hx : Positive (parts x)) (hy : Positive (parts y)) :
    Positive (parts (x / y)) := by
  rw [parts_div]
  refine Positive.stored ?_
  -- a part without a value has no sign, and makes a result without one
  match parts x, parts y, hx, hy with
  | .notANumber, _, _, _ => trivial
  | .infinity _, .notANumber, _, _ => trivial
  | .zero _, .notANumber, _, _ => trivial
  | .finite .., .notANumber, _, _ => trivial
  | .infinity _, .infinity _, _, _ => trivial
  | .infinity .positive, .finite .positive .., _, _ => rfl
  | .infinity .positive, .zero .positive, _, _ => rfl
  | .finite .positive .., .infinity .positive, _, _ => rfl
  | .zero .positive, .infinity .positive, _, _ => rfl
  | .finite .positive .., .zero .positive, _, _ => rfl
  | .zero .positive, .finite .positive .., _, _ => rfl
  | .zero _, .zero _, _, _ => trivial
  | .finite .positive .., .finite .positive .., _, _ => exact positive_roundWithAccuracy _ _ _

/-! ## Rounding to a whole number -/

/-- A number with a fraction loses it. -/
theorem roundDouble_of_fraction {x : Float} {significand places : Nat} {hpos : 0 < significand}
    (hx : parts x = .finite .positive significand (.negSucc places) hpos) :
    roundDouble x =
      ((significand + 1 <<< places) >>> (places + 1)).toUInt64.toFloat := by
  have hx : x.toModel.unpack = .finite .positive significand (.negSucc places) hpos := hx
  rw [roundDouble, hx]

/-- A number without a fraction stays. -/
theorem roundDouble_of_natural {x : Float} {significand exponent : Nat} {hpos : 0 < significand}
    (hx : parts x = .finite .positive significand exponent hpos) : roundDouble x = x := by
  have hx : x.toModel.unpack = .finite .positive significand exponent hpos := hx
  rw [roundDouble, hx]

/-- Rounding a positive number gives a natural number of at most `2 ^ 52`, or a large one. -/
theorem round_cases {x : Float} (hpos : Positive (parts x)) (hfinite : (parts x).isFinite) :
    (∃ n, n + 1 < 2 ^ 53 ∧ parts (roundDouble x) = whole n) ∨ Large (parts (roundDouble x)) := by
  have hcanonical : Canonical (parts x) := canonical_unpack _
  match hx : parts x with
  | .notANumber | .infinity _ =>
    rw [hx] at hfinite
    cases hfinite
  | .zero sign =>
    rw [hx] at hpos
    have hround : roundDouble x = x := by
      have hx : x.toModel.unpack = .zero sign := hx
      rw [roundDouble, hx]
    refine .inl ⟨0, by decide, ?_⟩
    rw [hround, hx, show sign = .positive from hpos]
    rfl
  | .finite sign significand exponent hsignificand =>
    rw [hx] at hpos hcanonical
    obtain rfl : sign = .positive := hpos
    obtain ⟨hhigh, -, hfull⟩ := hcanonical
    cases exponent with
    | ofNat exponent =>
      have hnonneg : 0 ≤ (exponent : Int) := Int.natCast_nonneg exponent
      -- the least exponent is negative, so this significand is full
      have hlow : 2 ^ 52 ≤ significand := hfull.resolve_left fun h => by
        have : (exponent : Int) = -1074 := h
        omega
      rw [roundDouble_of_natural hx, hx]
      exact .inr (.inr ⟨significand, exponent, hsignificand, rfl, hlow, hhigh, hnonneg⟩)
    | negSucc places =>
      have hpow := Nat.two_pow_pos places
      -- with a digit behind the point there are at most 52 in front of it
      have hbound : (significand + 1 <<< places) >>> (places + 1) ≤ 2 ^ 52 := by
        rw [Nat.shiftRight_eq_div_pow, Nat.shiftLeft_eq, Nat.pow_succ]
        exact Nat.div_le_of_le_mul (by omega)
      rw [roundDouble_of_fraction hx]
      exact .inl ⟨_, by omega, parts_toFloat (by omega)⟩

/-- A positive double rounded to a whole number, and one added to it, counts. -/
theorem counts_round_add_one {x : Float} (hpos : Positive (parts x)) (hfinite : Scalar.isFinite x) :
    Counts (Scalar.round x + Scalar.ofNat 1) := by
  have hone : parts (Scalar.ofNat 1) = whole 1 := parts_toFloat (by decide)
  have hround : Scalar.round x = roundDouble x := rfl
  rw [hround]
  rcases round_cases hpos hfinite with ⟨n, hn, hwhole⟩ | hlarge
  · exact .inl ⟨n + 1, Nat.succ_pos n, hn, parts_add_one hwhole hone hn⟩
  · exact .inr (large_add_one hlarge hone)

end Double

end Georef
