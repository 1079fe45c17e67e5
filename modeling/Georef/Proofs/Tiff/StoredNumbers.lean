import Georef.Proofs.Doubles.Nearest
import Georef.Proofs.Tiff.StoredKeys

/-!
# Values as doubles

Values of every numeric type stand for numbers: integers of several widths, fractions, and
floating-point words. To compute with them they are converted to doubles, each to the nearest one; a
fraction is the quotient of two of these, and no number at all if its denominator is zero.

Values in two of the numeric types are not converted, as if they were texts: signed bytes, and
signed integers of eight bytes.

The module introduces:

* `StoredNumber`, `StoredNumber.toFloat` — numbers as they are stored, and their doubles.
* `Value.holdsNumbers`, `Value.storedNumbers` — which values stand for numbers, and for which.
* `Value.numbers?_converts` — which values are converted, and to what.
* `Value.exists_numbers_unseen` — numbers that are not.
-/

namespace Georef.Tiff

open Double (nearest)

/-- A number as it is stored. -/
inductive StoredNumber where
  | whole (value : Int)
  /-- A fraction, which has no value if the denominator is zero. -/
  | fraction (numerator denominator : Int)
  | single (word : Binary32)
  | double (word : Binary64)
  deriving DecidableEq, Repr

/-- The double of a stored number. Every single is a double as well. -/
def StoredNumber.toFloat : StoredNumber → Float
  | whole value => nearest value
  | fraction numerator denominator =>
    if denominator = 0 then .nan else nearest numerator / nearest denominator
  | single word => (Float32.ofBits word.bits).toFloat
  | double word => .ofBits word.bits

namespace StoredNumber

/-! ## Conversions -/

/-- Unsigned words become the doubles nearest to them. -/
theorem map_ofNat {ι : Type} {toNat : ι → Nat} (h : ∀ x, toNat x < 2 ^ 64) (words : List ι) :
    (words.map fun x => Scalar.ofNat (toNat x)) =
      (words.map fun x => whole (toNat x)).map toFloat := by
  rw [List.map_map]
  exact List.map_congr_left fun x _ => Scalar.ofNat_eq_nearest (h x)

/-- Signed words of no more than 32 bits do too. -/
theorem map_ofInt {ι : Type} {toInt : ι → Int} (h : ∀ x, -2 ^ 31 ≤ toInt x ∧ toInt x < 2 ^ 31)
    (words : List ι) :
    (words.map fun x => Scalar.ofInt (toInt x)) =
      (words.map fun x => whole (toInt x)).map toFloat := by
  rw [List.map_map]
  refine List.map_congr_left fun x _ => ?_
  obtain ⟨hlow, hhigh⟩ := h x
  exact Scalar.ofInt_eq_nearest (by omega) (by omega)

/-- An unsigned fraction becomes the quotient of its parts. -/
theorem toFloat_unsigned (x : Fraction UInt32) :
    (x.unsigned?.getD Scalar.undefined : Float) =
      (fraction x.numerator.toNat x.denominator.toNat).toFloat := by
  have hnumerator : x.numerator.toNat < 2 ^ 32 := x.numerator.toNat_lt
  have hdenominator : x.denominator.toNat < 2 ^ 32 := x.denominator.toNat_lt
  have hzero : (x.denominator.toNat : Int) = 0 ↔ x.denominator = 0 := by
    rw [Int.natCast_eq_zero, ← UInt32.toNat_inj]
    rfl
  rw [Fraction.unsigned?, toFloat]
  simp only [hzero]
  split
  · exact Scalar.undefined_eq_nan
  · rw [Option.getD_some, Scalar.ofNat_eq_nearest (by omega), Scalar.ofNat_eq_nearest (by omega)]

/-- A signed fraction does too. -/
theorem toFloat_signed (x : Fraction Int32) :
    (x.signed?.getD Scalar.undefined : Float) =
      (fraction x.numerator.toInt x.denominator.toInt).toFloat := by
  have hnumerator : -2 ^ 31 ≤ x.numerator.toInt ∧ x.numerator.toInt < 2 ^ 31 :=
    ⟨x.numerator.le_toInt, x.numerator.toInt_lt⟩
  have hdenominator : -2 ^ 31 ≤ x.denominator.toInt ∧ x.denominator.toInt < 2 ^ 31 :=
    ⟨x.denominator.le_toInt, x.denominator.toInt_lt⟩
  have hzero : x.denominator.toInt = 0 ↔ x.denominator = 0 := by
    rw [← Int32.toInt_inj]
    rfl
  rw [Fraction.signed?, toFloat]
  simp only [hzero]
  split
  · exact Scalar.undefined_eq_nan
  · rw [Option.getD_some, Scalar.ofInt_eq_nearest (by omega) (by omega),
      Scalar.ofInt_eq_nearest (by omega) (by omega)]

end StoredNumber

/-! ## Numbers of a value -/

namespace Value

/-- Whether values stand for numbers. Texts do not, nor do bytes of which it is not known what they
stand for. -/
def holdsNumbers : Value → Bool
  | ascii _ | undefined _ | raw .. => false
  | _ => true

/-- The numbers that values stand for, in order. -/
def storedNumbers : Value → List StoredNumber
  | ascii _ | undefined _ | raw .. => []
  | bytes values => values.map fun x => .whole x.toNat
  | shorts values => values.map fun x => .whole x.toNat
  | longs values => values.map fun x => .whole x.toNat
  | offsets values | long8s values => values.map fun x => .whole x.toNat
  | signedBytes values => values.map fun x => .whole x.toInt
  | signedShorts values => values.map fun x => .whole x.toInt
  | signedLongs values => values.map fun x => .whole x.toInt
  | signedLong8s values => values.map fun x => .whole x.toInt
  | rationals values => values.map fun x => .fraction x.numerator.toNat x.denominator.toNat
  | signedRationals values => values.map fun x => .fraction x.numerator.toInt x.denominator.toInt
  | floats values => values.map .single
  | doubles values => values.map .double

/-- There is one number for each stored value. -/
theorem length_storedNumbers {value : Value} (h : value.holdsNumbers = true) :
    value.storedNumbers.length = value.length := by
  cases value with
  | ascii | undefined | raw => cases h
  | _ => exact List.length_map ..

/-- The values that stand for numbers are those that have numbers of any numeric type. -/
theorem holdsNumbers_eq (α : Type) [Scalar α] (value : Value) :
    value.holdsNumbers = (value.allNumbers? : Option (List α)).isSome := by
  cases value <;> rfl

/-- Values are converted number by number. The two types that are not seen have no conversion. -/
theorem allNumbers?_eq {value : Value} (h : value.holdsNumbers = true)
    (hseen : value.isOverlooked = false) :
    value.allNumbers? = some (value.storedNumbers.map StoredNumber.toFloat) := by
  cases value with
  | ascii | undefined | raw => cases h
  | signedBytes | signedLong8s => cases hseen
  | bytes values =>
    exact congrArg some (StoredNumber.map_ofNat (fun x => Nat.lt_trans x.toNat_lt (by decide)) _)
  | shorts values =>
    exact congrArg some (StoredNumber.map_ofNat (fun x => Nat.lt_trans x.toNat_lt (by decide)) _)
  | longs values =>
    exact congrArg some (StoredNumber.map_ofNat (fun x => Nat.lt_trans x.toNat_lt (by decide)) _)
  | offsets values | long8s values =>
    exact congrArg some (StoredNumber.map_ofNat UInt64.toNat_lt _)
  | signedShorts values =>
    refine congrArg some (StoredNumber.map_ofInt (fun x => ?_) _)
    have hlow := x.le_toInt
    have hhigh := x.toInt_lt
    omega
  | signedLongs values =>
    exact congrArg some (StoredNumber.map_ofInt (fun x => ⟨x.le_toInt, x.toInt_lt⟩) _)
  | rationals values =>
    rw [storedNumbers, List.map_map]
    exact congrArg some (List.map_congr_left fun x _ => StoredNumber.toFloat_unsigned x)
  | signedRationals values =>
    rw [storedNumbers, List.map_map]
    exact congrArg some (List.map_congr_left fun x _ => StoredNumber.toFloat_signed x)
  | floats values =>
    rw [storedNumbers, List.map_map]
    rfl
  | doubles values =>
    rw [storedNumbers, List.map_map]
    rfl

/-- Values are converted to doubles if and only if they stand for numbers and are of none of the two
types in which numbers are not seen. There is one double for each stored value, in order, and it is
that of the number which the value stands for. -/
theorem numbers?_converts (value : Value) :
    ((∃ numbers : List Float, value.numbers? = some numbers) ↔
        value.holdsNumbers = true ∧ value.isOverlooked = false) ∧
      ∀ numbers : List Float, value.numbers? = some numbers →
        numbers.length = value.length ∧
          numbers = value.storedNumbers.map StoredNumber.toFloat := by
  have hconverts : (∃ numbers : List Float, value.numbers? = some numbers) ↔
      value.holdsNumbers = true ∧ value.isOverlooked = false := by
    rw [numbers?_eq, holdsNumbers_eq Float, ← Option.isSome_iff_exists]
    cases value.isOverlooked <;> simp
  refine ⟨hconverts, fun numbers hnumbers => ?_⟩
  obtain ⟨hholds, hseen⟩ := hconverts.1 ⟨numbers, hnumbers⟩
  rw [numbers?_eq, hseen, if_neg Bool.false_ne_true, allNumbers?_eq hholds hseen] at hnumbers
  rw [← Option.some.inj hnumbers, List.length_map]
  exact ⟨length_storedNumbers hholds, rfl⟩

/-- Three fractions, the second one without a value. -/
theorem numbers?_converts_fractions :
    let value : Value := .signedRationals [⟨-1, 3⟩, ⟨1, 0⟩, ⟨4, -2⟩]
    ∃ numbers : List Float, value.numbers? = some numbers ∧ numbers.length = 3 ∧
      numbers = [nearest (-1) / nearest 3, .nan, -2] := by
  intro value
  obtain ⟨hconverts, hall⟩ := numbers?_converts value
  obtain ⟨numbers, hnumbers⟩ := hconverts.2 ⟨rfl, rfl⟩
  obtain ⟨hlength, hlist⟩ := hall numbers hnumbers
  exact ⟨numbers, hnumbers, hlength, by rw [hlist]; decide +kernel⟩

/-- Signed bytes, and signed integers of eight bytes, stand for numbers and are not converted. -/
theorem exists_numbers_unseen :
    ∃ narrow wide : Value, narrow = .signedBytes [5] ∧ wide = .signedLong8s [-5] ∧
      narrow.holdsNumbers = true ∧ (narrow.numbers? : Option (List Float)) = none ∧
      wide.holdsNumbers = true ∧ (wide.numbers? : Option (List Float)) = none :=
  ⟨_, _, rfl, rfl, rfl, rfl, rfl, rfl⟩

end Value

end Georef.Tiff
