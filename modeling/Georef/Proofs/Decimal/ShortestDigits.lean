import Georef.Decimal.Shortest
import Georef.Proofs.Doubles.Quotients

/-!
# The shortest decimal of a double

The search over ever finer grids ends with a point in the interval of the double: at 17 digits the
points of the grid lie closer to each other than the ends of the interval, and so one of the two
neighbours of the double is inside.

The module introduces:

* `Digits.value` — the number that a decimal stands for.
* `Inside closed low high den x` — `x` lies between `low / den` and `high / den`;
  `passes` — the test for it on a grid.
* `tenPow_magnitude_le` — the leading digit of a number is found.
* `shortest_roundsTo` — the shortest decimal lies in the interval of its double.
-/

namespace Georef.Decimal

open Double (RoundsTo lowGap)

/-- The number that a decimal stands for. -/
def Digits.value (digits : Digits) : ℚ :=
  digits.number * 10 ^ digits.power

/-! ## Powers as pairs of factors -/

theorem powerOfTen_pos (power : Int) : 0 < (powerOfTen power).1 ∧ 0 < (powerOfTen power).2 := by
  rw [powerOfTen]
  split
  · exact ⟨Nat.pow_pos (by decide), one_pos⟩
  · exact ⟨one_pos, Nat.pow_pos (by decide)⟩

theorem powerOfTen_eq (power : Int) :
    ((powerOfTen power).1 : ℚ) / (powerOfTen power).2 = 10 ^ power := by
  rw [powerOfTen]
  split
  · obtain ⟨n, rfl⟩ := Int.eq_ofNat_of_zero_le ‹0 ≤ power›
    simp
  · obtain ⟨n, hn⟩ := Int.eq_ofNat_of_zero_le (show 0 ≤ -power by omega)
    obtain rfl : power = -n := by omega
    simp

theorem powerOfTwo_pos (power : Int) : 0 < (powerOfTwo power).1 ∧ 0 < (powerOfTwo power).2 := by
  rw [powerOfTwo]
  simp only [Nat.one_shiftLeft]
  split
  · exact ⟨Nat.two_pow_pos _, one_pos⟩
  · exact ⟨one_pos, Nat.two_pow_pos _⟩

theorem powerOfTwo_eq (power : Int) :
    ((powerOfTwo power).1 : ℚ) / (powerOfTwo power).2 = 2 ^ power := by
  rw [powerOfTwo]
  simp only [Nat.one_shiftLeft]
  split
  · obtain ⟨n, rfl⟩ := Int.eq_ofNat_of_zero_le ‹0 ≤ power›
    simp
  · obtain ⟨n, hn⟩ := Int.eq_ofNat_of_zero_le (show 0 ≤ -power by omega)
    obtain rfl : power = -n := by omega
    simp

/-- Comparing with a power of ten crosswise. -/
theorem tenPowerLe_iff {power : Int} {num den : Nat} (hden : 0 < den) :
    tenPowerLe power num den ↔ (10 : ℚ) ^ power ≤ num / den := by
  obtain ⟨hup, hdown⟩ := powerOfTen_pos power
  have hden' : (0 : ℚ) < den := by exact_mod_cast hden
  have hdown' : (0 : ℚ) < (powerOfTen power).2 := by exact_mod_cast hdown
  rw [tenPowerLe, decide_eq_true_eq, ← powerOfTen_eq, div_le_div_iff₀ hdown' hden']
  exact_mod_cast Iff.rfl

/-! ## The leading digit -/

/-- A power of ten below a number stays one while it is corrected upwards. -/
theorem tenPow_leadingPower_le {num den : Nat} (hden : 0 < den) (fuel : Nat) (start : Int)
    (h : (10 : ℚ) ^ start ≤ num / den) :
    (10 : ℚ) ^ leadingPower num den fuel start ≤ num / den := by
  induction fuel generalizing start with
  | zero => exact h
  | succ fuel ih =>
    rw [leadingPower]
    split
    · rename_i hle
      exact ih (start + 1) ((tenPowerLe_iff hden).1 hle)
    · exact h

/-- The estimate from the number of binary digits is not too high. -/
theorem tenPow_estimate_le {bits : Int} (hlow : -1100 ≤ bits) (hhigh : bits ≤ 1100) :
    (10 : ℚ) ^ ((bits * 30103).fdiv 100000 - 1) ≤ 2 ^ bits := by
  have hestimate : (bits * 30103).fdiv 100000 = bits * 30103 / 100000 :=
    Int.fdiv_eq_ediv_of_nonneg _ (by decide)
  rw [hestimate]
  generalize hstart : bits * 30103 / 100000 - 1 = start
  by_cases hsign : 0 ≤ start
  · obtain ⟨n, rfl⟩ := Int.eq_ofNat_of_zero_le hsign
    obtain ⟨b, rfl⟩ := Int.eq_ofNat_of_zero_le (show 0 ≤ bits by omega)
    -- `59 / 196` is a little less than the decimal logarithm of two
    have hratio : n * 196 ≤ 59 * b := by omega
    have hpow : 10 ^ n ≤ 2 ^ b := by
      refine (Nat.pow_le_pow_iff_left (by decide : 196 ≠ 0)).1 ?_
      calc (10 ^ n) ^ 196 = 10 ^ (n * 196) := (Nat.pow_mul ..).symm
        _ ≤ 10 ^ (59 * b) := Nat.pow_le_pow_right (by decide) hratio
        _ = (10 ^ 59) ^ b := Nat.pow_mul ..
        _ ≤ (2 ^ 196) ^ b := Nat.pow_le_pow_left (by decide) b
        _ = (2 ^ b) ^ 196 := Nat.pow_right_comm ..
    rw [zpow_natCast, zpow_natCast]
    exact_mod_cast hpow
  · obtain ⟨n, hn⟩ := Int.eq_ofNat_of_zero_le (show 0 ≤ -start by omega)
    obtain rfl : start = -n := by omega
    -- and `28 / 93` a little more
    have hratio : 28 * (-bits).toNat ≤ n * 93 := by omega
    have hpow : 2 ^ (-bits).toNat ≤ 10 ^ n := by
      refine (Nat.pow_le_pow_iff_left (by decide : 93 ≠ 0)).1 ?_
      calc (2 ^ (-bits).toNat) ^ 93 = (2 ^ 93) ^ (-bits).toNat := Nat.pow_right_comm ..
        _ ≤ (10 ^ 28) ^ (-bits).toNat := Nat.pow_le_pow_left (by decide) _
        _ = 10 ^ (28 * (-bits).toNat) := (Nat.pow_mul ..).symm
        _ ≤ 10 ^ (n * 93) := Nat.pow_le_pow_right (by decide) hratio
        _ = (10 ^ n) ^ 93 := Nat.pow_mul ..
    have hpow' : (2 : ℚ) ^ (-bits).toNat ≤ 10 ^ n := by exact_mod_cast hpow
    calc (10 : ℚ) ^ (-(n : Int)) = (10 ^ n)⁻¹ := by rw [zpow_neg, zpow_natCast]
      _ ≤ (2 ^ (-bits).toNat)⁻¹ := inv_anti₀ (by positivity) hpow'
      _ = 2 ^ (-((-bits).toNat : Int)) := by rw [zpow_neg, zpow_natCast]
      _ ≤ 2 ^ bits := zpow_le_zpow_right₀ one_le_two (by omega)

/-- The power of ten of the leading digit is not above the number. -/
theorem tenPow_magnitude_le {num den : Nat} (hnum : 0 < num) (hden : 0 < den)
    (hnumLog : num.log2 ≤ 1090) (hdenLog : den.log2 ≤ 1090) :
    (10 : ℚ) ^ magnitude num den ≤ num / den := by
  have hden' : (0 : ℚ) < den := by exact_mod_cast hden
  rw [magnitude]
  refine tenPow_leadingPower_le hden 4 _ (le_trans (tenPow_estimate_le (by omega) (by omega)) ?_)
  have hlow : ((2 ^ num.log2 : Nat) : ℚ) ≤ num := by exact_mod_cast Nat.log2_self_le hnum.ne'
  have hhigh : (den : ℚ) ≤ (2 ^ (den.log2 + 1) : Nat) := by exact_mod_cast Nat.lt_log2_self.le
  calc (2 : ℚ) ^ ((num.log2 : Int) - den.log2 - 1)
      = (2 ^ num.log2 : Nat) / (2 ^ (den.log2 + 1) : Nat) := by
        rw [zpow_sub_one₀ two_ne_zero, zpow_sub₀ two_ne_zero, zpow_natCast, zpow_natCast, pow_succ]
        push_cast
        field_simp
    _ ≤ num / (2 ^ (den.log2 + 1) : Nat) := div_le_div_of_nonneg_right hlow (by positivity)
    _ ≤ num / den := div_le_div_of_nonneg_left (by positivity) hden' hhigh

/-! ## Points of a grid -/

/-- `Inside closed low high den x`: `x` lies between `low / den` and `high / den`, and is an end only
if the interval is closed. -/
structure Inside (closed : Bool) (low high den : Nat) (x : ℚ) : Prop where
  low_le : (low : ℚ) / den ≤ x
  le_high : x ≤ high / den
  low_lt : closed = false → (low : ℚ) / den < x
  lt_high : closed = false → x < high / den

section

variable {tie : Tie} {closed : Bool} {num low high den : Nat} {power : Int}

theorem le_gridPoint_iff {k : Nat} (hden : 0 < den) :
    (low : ℚ) / den ≤ k * 10 ^ power ↔
      low * (powerOfTen power).2 ≤ k * ((powerOfTen power).1 * den) := by
  have hden' : (0 : ℚ) < den := by exact_mod_cast hden
  have hdown : (0 : ℚ) < (powerOfTen power).2 := by exact_mod_cast (powerOfTen_pos power).2
  rw [← powerOfTen_eq, ← mul_div_assoc, div_le_div_iff₀ hden' hdown, mul_assoc]
  exact_mod_cast Iff.rfl

theorem gridPoint_le_iff {k : Nat} (hden : 0 < den) :
    k * 10 ^ power ≤ (high : ℚ) / den ↔
      k * ((powerOfTen power).1 * den) ≤ high * (powerOfTen power).2 := by
  have hden' : (0 : ℚ) < den := by exact_mod_cast hden
  have hdown : (0 : ℚ) < (powerOfTen power).2 := by exact_mod_cast (powerOfTen_pos power).2
  rw [← powerOfTen_eq, ← mul_div_assoc, div_le_div_iff₀ hdown hden', mul_assoc]
  exact_mod_cast Iff.rfl

/-- The test for the point `k * 10 ^ power` of a grid, with whole numbers. -/
def passes (closed : Bool) (low high den : Nat) (power : Int) (k : Nat) : Bool :=
  if closed then
    low * (powerOfTen power).2 ≤ k * ((powerOfTen power).1 * den) &&
      k * ((powerOfTen power).1 * den) ≤ high * (powerOfTen power).2
  else
    low * (powerOfTen power).2 < k * ((powerOfTen power).1 * den) &&
      k * ((powerOfTen power).1 * den) < high * (powerOfTen power).2

/-- A point strictly between the ends passes the test. -/
theorem passes_of_lt {k : Nat}
    (hlow : low * (powerOfTen power).2 < k * ((powerOfTen power).1 * den))
    (hhigh : k * ((powerOfTen power).1 * den) < high * (powerOfTen power).2) :
    passes closed low high den power k = true := by
  cases closed <;> simp [passes, hlow, hhigh, hlow.le, hhigh.le]

/-- A point of the grid that passes the test lies in the interval. -/
theorem inside_of_passes {k : Nat} (hden : 0 < den)
    (h : passes closed low high den power k = true) :
    Inside closed low high den (k * 10 ^ power) := by
  rw [passes] at h
  cases closed with
  | true =>
    simp only [if_true, Bool.and_eq_true, decide_eq_true_eq] at h
    exact ⟨(le_gridPoint_iff hden).2 h.1, (gridPoint_le_iff hden).2 h.2, nofun, nofun⟩
  | false =>
    simp only [Bool.false_eq_true, if_false, Bool.and_eq_true, decide_eq_true_eq] at h
    have hlow : (low : ℚ) / den < k * 10 ^ power :=
      not_le.1 fun hle => absurd ((gridPoint_le_iff hden).1 hle) (Nat.not_le.2 h.1)
    have hhigh : k * 10 ^ power < (high : ℚ) / den :=
      not_le.1 fun hle => absurd ((le_gridPoint_iff hden).1 hle) (Nat.not_le.2 h.2)
    exact ⟨hlow.le, hhigh.le, fun _ => hlow, fun _ => hhigh⟩

/-- What is found on a grid lies in the interval. -/
theorem inside_of_onGrid? {found : Digits} (hden : 0 < den)
    (h : onGrid? tie closed num low high den power = some found) :
    Inside closed low high den found.value := by
  rw [onGrid?] at h
  simp only at h
  split at h
  · cases h
  · rename_i hbelow habove
    obtain rfl := Option.some.inj h
    exact inside_of_passes hden hbelow
  · rename_i hbelow habove
    obtain rfl := Option.some.inj h
    exact inside_of_passes hden habove
  · rename_i hbelow habove
    obtain rfl := Option.some.inj h
    simp only [Digits.value]
    split
    · exact inside_of_passes hden habove
    · exact inside_of_passes hden hbelow

/-- On a grid that is finer than the interval there is a point inside it. -/
theorem exists_onGrid? (hlow : low < num) (hhigh : num < high) (hden : 0 < den)
    (hfine : (low : ℚ) / den + 10 ^ power < high / den) :
    ∃ found, onGrid? tie closed num low high den power = some found := by
  obtain ⟨hup, hdown⟩ := powerOfTen_pos power
  have hfine' : low * (powerOfTen power).2 + (powerOfTen power).1 * den <
      high * (powerOfTen power).2 := by
    have hden' : (0 : ℚ) < den := by exact_mod_cast hden
    have hdown' : (0 : ℚ) < (powerOfTen power).2 := by exact_mod_cast hdown
    rw [← powerOfTen_eq, div_add_div _ _ hden'.ne' hdown'.ne',
      div_lt_div_iff₀ (mul_pos hden' hdown') hden', mul_comm (den : ℚ) (powerOfTen power).2,
      ← mul_assoc, mul_lt_mul_iff_left₀ hden', mul_comm (den : ℚ) (powerOfTen power).1] at hfine
    exact_mod_cast hfine
  have hunit : 0 < (powerOfTen power).1 * den := Nat.mul_pos hup hden
  have hlow' : low * (powerOfTen power).2 < num * (powerOfTen power).2 :=
    Nat.mul_lt_mul_of_pos_right hlow hdown
  have hhigh' : num * (powerOfTen power).2 < high * (powerOfTen power).2 :=
    Nat.mul_lt_mul_of_pos_right hhigh hdown
  have hbelow := Nat.div_mul_le_self (num * (powerOfTen power).2) ((powerOfTen power).1 * den)
  have habove : num * (powerOfTen power).2 <
      (num * (powerOfTen power).2 / ((powerOfTen power).1 * den) + 1) *
        ((powerOfTen power).1 * den) :=
    Nat.lt_mul_of_div_lt (Nat.lt_succ_self _) hunit
  rw [onGrid?]
  simp only
  generalize num * (powerOfTen power).2 / ((powerOfTen power).1 * den) = below at hbelow habove ⊢
  split
  · rename_i hfalse hfalse'
    -- then both neighbours of the number are behind the ends, further apart than the grid allows
    have hout : ¬low * (powerOfTen power).2 < below * ((powerOfTen power).1 * den) := fun hk =>
      Bool.false_ne_true (hfalse.symm.trans (passes_of_lt hk (by omega)))
    have hout' : ¬(below + 1) * ((powerOfTen power).1 * den) < high * (powerOfTen power).2 :=
      fun hk => Bool.false_ne_true (hfalse'.symm.trans (passes_of_lt (by omega) hk))
    rw [Nat.add_mul, Nat.one_mul] at hout'
    omega
  · exact ⟨_, rfl⟩
  · exact ⟨_, rfl⟩
  · exact ⟨_, rfl⟩

/-- The search ends on a grid with a point in the interval, if it reaches one. -/
theorem inside_search_of_onGrid? (hden : 0 < den) {lead : Int} {fuel digits steps : Nat}
    (hsteps : steps < fuel)
    (h : ∃ found, onGrid? tie closed num low high den (lead - (digits + steps : Nat) + 1) =
      some found) :
    Inside closed low high den (search tie closed num low high den lead fuel digits).value := by
  induction fuel generalizing digits steps with
  | zero => omega
  | succ fuel ih =>
    rw [search]
    split
    · rename_i found hfound
      exact inside_of_onGrid? hden hfound
    · rename_i hnone
      cases steps with
      | zero =>
        obtain ⟨found, hfound⟩ := h
        rw [Nat.add_zero, hnone] at hfound
        cases hfound
      | succ steps =>
        have hfewer : steps < fuel := by omega
        refine ih hfewer ?_
        rwa [show digits + 1 + steps = digits + (steps + 1) by omega]

/-- The search ends inside the interval, if the grid of seventeen digits is finer. -/
theorem inside_search (hlow : low < num) (hhigh : num < high) (hden : 0 < den) {lead : Int}
    (hfine : (low : ℚ) / den + 10 ^ (lead - 16) < high / den) :
    Inside closed low high den (search tie closed num low high den lead 17 1).value := by
  refine inside_search_of_onGrid? hden (Nat.lt_succ_self 16) (exists_onGrid? hlow hhigh hden ?_)
  rwa [show lead - ((1 + 16 : Nat) : Int) + 1 = lead - 16 by omega]

end

/-! ## The shortest decimal -/

/-- Zeros at the end of a decimal add nothing. -/
theorem value_strip (fuel : Nat) (digits : Digits) :
    (digits.strip fuel).value = digits.value := by
  induction fuel generalizing digits with
  | zero => rfl
  | succ fuel ih =>
    rw [Digits.strip]
    split
    · rename_i h
      rw [ih, Digits.value, Digits.value]
      have hnumber : (digits.number : ℚ) = (digits.number / 10 : Nat) * 10 := by
        exact_mod_cast (Nat.div_mul_cancel (Nat.dvd_of_mod_eq_zero h.1)).symm
      rw [hnumber, zpow_add_one₀ (by norm_num)]
      ring
    · rfl

section

variable {significand : Nat} {exponent : Int}

/-- The numbers that the search computes with have no more than 1090 binary digits. -/
theorem log2_powerOfTwo_le (hshort : significand < 2 ^ 53) (hlow : -1074 ≤ exponent)
    (hhigh : exponent ≤ 971) :
    (4 * significand * (powerOfTwo (exponent - 2)).1).log2 ≤ 1090 ∧
      (powerOfTwo (exponent - 2)).2.log2 ≤ 1090 := by
  have hbound : ∀ n digits : Nat, n < 2 ^ digits → digits ≤ 1091 → n.log2 ≤ 1090 := by
    intro n digits hn hdigits
    by_cases hzero : n = 0
    · rw [hzero, Nat.log2_zero]
      exact Nat.zero_le _
    · have := (Nat.log2_lt hzero).2 hn
      omega
  have hsmall : 4 * significand < 2 ^ 55 := by omega
  rw [powerOfTwo]
  simp only [Nat.one_shiftLeft]
  split
  · have hproduct : 4 * significand * 2 ^ (exponent - 2).toNat <
        2 ^ (55 + (exponent - 2).toNat) := by
      rw [Nat.pow_add]
      exact Nat.mul_lt_mul_of_pos_right hsmall (Nat.two_pow_pos _)
    exact ⟨hbound _ _ hproduct (by omega), hbound 1 1 (by decide) (by decide)⟩
  · refine ⟨hbound _ 55 (by rwa [Nat.mul_one]) (by decide), ?_⟩
    rw [Nat.log2_two_pow]
    omega

/-- Seventeen digits are enough: that far behind the leading one, the last place is less than the
interval is wide. -/
theorem tenPow_lt_width (hshort : significand < 2 ^ 53) {lead : Int}
    (hlead : (10 : ℚ) ^ lead ≤ 4 * significand * 2 ^ (exponent - 2)) :
    (10 : ℚ) ^ (lead - 16) < (lowGap significand exponent + 2) * 2 ^ (exponent - 2) := by
  have hpow : (0 : ℚ) < 2 ^ (exponent - 2) := by positivity
  have hwidth : (4 * significand : ℚ) < (lowGap significand exponent + 2) * 10 ^ 16 := by
    have hnat : 4 * significand < (lowGap significand exponent + 2) * 10 ^ 16 := by
      rw [lowGap]
      split <;> omega
    exact_mod_cast hnat
  rw [zpow_sub₀ (by norm_num), zpow_ofNat, div_lt_iff₀ (by positivity)]
  calc (10 : ℚ) ^ lead ≤ 4 * significand * 2 ^ (exponent - 2) := hlead
    _ < (lowGap significand exponent + 2) * 10 ^ 16 * 2 ^ (exponent - 2) :=
        mul_lt_mul_of_pos_right hwidth hpow
    _ = (lowGap significand exponent + 2) * 2 ^ (exponent - 2) * 10 ^ 16 := by ring

/-- The shortest decimal of a double is a number to which the double is the nearest. -/
theorem shortest_roundsTo (tie : Tie) (hpos : 0 < significand) (hshort : significand < 2 ^ 53)
    (hlow : -1074 ≤ exponent) (hhigh : exponent ≤ 971) :
    RoundsTo significand exponent (shortest tie significand exponent).value := by
  obtain ⟨hup, hdown⟩ := powerOfTwo_pos (exponent - 2)
  obtain ⟨hnumLog, hdenLog⟩ := log2_powerOfTwo_le hshort hlow hhigh
  have hfactors := powerOfTwo_eq (exponent - 2)
  have hgap : 1 ≤ lowGap significand exponent ∧ lowGap significand exponent ≤ 2 := by
    rw [lowGap]
    split <;> decide
  have hshortest : shortest tie significand exponent =
      (search tie (significand % 2 == 0) (4 * significand * (powerOfTwo (exponent - 2)).1)
        ((4 * significand - lowGap significand exponent) * (powerOfTwo (exponent - 2)).1)
        ((4 * significand + 2) * (powerOfTwo (exponent - 2)).1) (powerOfTwo (exponent - 2)).2
        (magnitude (4 * significand * (powerOfTwo (exponent - 2)).1) (powerOfTwo (exponent - 2)).2)
        17 1).strip 17 := by
    rw [shortest, if_neg hpos.ne']
    rfl
  rw [hshortest, value_strip]
  generalize (powerOfTwo (exponent - 2)).1 = up at *
  generalize (powerOfTwo (exponent - 2)).2 = down at *
  -- numerators are counted in quarters of the unit of the last place
  have hquarters : ∀ n : Nat, ((n * up : Nat) : ℚ) / down = n * 2 ^ (exponent - 2) := by
    intro n
    rw [← hfactors, Nat.cast_mul, mul_div_assoc]
  have hlead := tenPow_magnitude_le (Nat.mul_pos (by omega) hup) hdown hnumLog hdenLog
  rw [hquarters] at hlead
  push_cast at hlead
  have hwidth := tenPow_lt_width hshort hlead
  have hlowEnd : (((4 * significand - lowGap significand exponent : Nat) : Nat) : ℚ) =
      4 * significand - lowGap significand exponent := by
    rw [Nat.cast_sub (by omega)]
    push_cast
    rfl
  have hfine : (((4 * significand - lowGap significand exponent) * up : Nat) : ℚ) / down +
      10 ^ (magnitude (4 * significand * up) down - 16) <
        ((4 * significand + 2) * up : Nat) / down := by
    rw [hquarters, hquarters, hlowEnd]
    push_cast
    linarith
  have hbelow : (4 * significand - lowGap significand exponent) * up < 4 * significand * up :=
    Nat.mul_lt_mul_of_pos_right (by omega) hup
  have habove : 4 * significand * up < (4 * significand + 2) * up :=
    Nat.mul_lt_mul_of_pos_right (by omega) hup
  obtain ⟨hle, hle', hlt, hlt'⟩ := inside_search hbelow habove hdown hfine
  rw [hquarters, hlowEnd] at hle hlt
  rw [hquarters] at hle' hlt'
  push_cast at hle' hlt'
  refine ⟨hle, hle', fun hodd => hlt ?_, fun hodd => hlt' ?_⟩
  · exact beq_false_of_ne hodd
  · exact beq_false_of_ne hodd

end

end Georef.Decimal
