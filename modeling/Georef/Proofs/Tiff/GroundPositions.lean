import Georef.Proofs.Fractions
import Georef.Tiff.Georeference
import Mathlib.Tactic.LinearCombination

/-!
# From pixels to the ground and back

The map of an image takes pixel positions to the ground, and its inverse takes them back. How an
image is turned, sheared or mirrored does not matter for that, but how large its pixels are does.
The determinant of the map is the area of a pixel with a sign, and a map counts as not invertible if
this area is less than a ten-billionth: for an image in degrees that is a pixel of about a metre,
and for one in metres a pixel of a hundredth of a millimetre. Numbers are exact here.

The module introduces:

* `Affine.invert?_eq_some_iff` — the position that the inverse gives is the one that is mapped to
  the given one.
* `fineDirectory` — an image in degrees, with pixels of less than half a metre.

`Georeference.groundToPixel?_pixelToGround?` says when positions come back, and
`Georeference.exists_position_lost` is an image on which they do not.
-/

namespace Georef

/-! ## Maps -/

namespace Affine

variable {map : Affine Rat} {pixel ground : Point Rat}

theorem leastDeterminant_rat : (leastDeterminant : Rat) = 1 / 10 ^ 10 := by
  rw [leastDeterminant, Scalar.decimal_rat, Nat.cast_one]

theorem invert?_eq (map : Affine Rat) (ground : Point Rat) :
    map.invert? ground =
      if |map.determinant| < 1 / 10 ^ 10 then none
      else some {
        x := (map.f * (ground.x - map.a) - map.c * (ground.y - map.d)) / map.determinant
        y := (-map.e * (ground.x - map.a) + map.b * (ground.y - map.d)) / map.determinant } := by
  rw [invert?, Scalar.abs_rat, leastDeterminant_rat]
  exact if_congr decide_eq_true_iff rfl rfl

/-- Where the determinant is not too small, the inverse gives the one position that is mapped to the
given one. -/
theorem invert?_eq_some_iff (h : 1 / 10 ^ 10 ≤ |map.determinant|) :
    map.invert? ground = some pixel ↔ map.apply pixel = ground := by
  have hne : map.b * map.f - map.c * map.e ≠ 0 := abs_pos.1 (lt_of_lt_of_le (by norm_num) h)
  rcases pixel with ⟨column, row⟩
  rcases ground with ⟨x, y⟩
  rw [invert?_eq, if_neg (not_lt.2 h), Option.some.injEq, apply]
  simp only [Point.mk.injEq, determinant]
  rw [div_eq_iff hne, div_eq_iff hne]
  -- without the divisions both sides are linear equations, of which each pair combines to the other
  constructor
  · rintro ⟨hx, hy⟩
    constructor <;> apply mul_right_cancel₀ hne
    · linear_combination -map.b * hx - map.c * hy
    · linear_combination -map.e * hx - map.f * hy
  · rintro ⟨rfl, rfl⟩
    constructor <;> ring

theorem exists_invert? (h : 1 / 10 ^ 10 ≤ |map.determinant|) (ground : Point Rat) :
    ∃ pixel, map.invert? ground = some pixel := by
  rw [invert?_eq, if_neg (not_lt.2 h)]
  exact ⟨_, rfl⟩

/-- Where it is too small, no position has an inverse. -/
theorem invert?_eq_none (h : |map.determinant| < 1 / 10 ^ 10) (ground : Point Rat) :
    map.invert? ground = none := by
  rw [invert?_eq, if_pos h]

end Affine

namespace Tiff.Georeference

/-! ## Images -/

section Images

variable {reference : Georeference Rat} {map : Affine Rat}

theorem pixelToGround?_of_affine? (hmap : reference.affine? = some map) (pixel : Point Rat) :
    reference.pixelToGround? pixel = some (map.apply pixel) := by
  rw [pixelToGround?, hmap, Option.map_some]

theorem groundToPixel?_of_affine? (hmap : reference.affine? = some map) (ground : Point Rat) :
    reference.groundToPixel? ground = map.invert? ground := by
  rw [groundToPixel?, hmap, Option.bind_some]

/-- Positions come back from the ground and from the image if the determinant of the map is at least
a ten-billionth; otherwise none does. -/
theorem groundToPixel?_pixelToGround? (hmap : reference.affine? = some map) :
    (1 / 10 ^ 10 ≤ |map.determinant| →
      (∀ pixel, (reference.pixelToGround? pixel).bind reference.groundToPixel? = some pixel) ∧
      ∀ ground, (reference.groundToPixel? ground).bind reference.pixelToGround? = some ground) ∧
    (|map.determinant| < 1 / 10 ^ 10 → ∀ ground, reference.groundToPixel? ground = none) := by
  refine ⟨fun hlarge => ⟨fun pixel => ?_, fun ground => ?_⟩, fun hsmall ground => ?_⟩
  · rw [pixelToGround?_of_affine? hmap, Option.bind_some, groundToPixel?_of_affine? hmap]
    exact (Affine.invert?_eq_some_iff hlarge).2 rfl
  · obtain ⟨pixel, hpixel⟩ := Affine.exists_invert? hlarge ground
    rw [groundToPixel?_of_affine? hmap, hpixel, Option.bind_some, pixelToGround?_of_affine? hmap,
      (Affine.invert?_eq_some_iff hlarge).1 hpixel]
  · rw [groundToPixel?_of_affine? hmap]
    exact Affine.invert?_eq_none hsmall ground

end Images

/-- An image by its matrix alone, which shears it and turns it over. -/
def turnedReference : Georeference Rat where
  scale := none
  tiePoints := []
  matrix := some #v[2, 1, 0, 10, 1, -3, 0, 20, 0, 0, 0, 0, 0, 0, 0, 1]
  keys := []
  modelType := none
  horizontal := none
  vertical := none
  citation := none

/-- The position of a pixel in this image comes back from the ground, and from the image. -/
theorem groundToPixel?_pixelToGround?_turned :
    ∃ map, turnedReference.affine? = some map ∧ 1 / 10 ^ 10 ≤ |map.determinant| ∧
      turnedReference.pixelToGround? ⟨3 / 2, 4⟩ = some ⟨17, 19 / 2⟩ ∧
      turnedReference.groundToPixel? ⟨17, 19 / 2⟩ = some ⟨3 / 2, 4⟩ ∧
      (turnedReference.groundToPixel? ⟨17, 19 / 2⟩).bind turnedReference.pixelToGround? =
        some ⟨17, 19 / 2⟩ := by
  have hmap : turnedReference.affine? = some ⟨10, 2, 1, 20, 1, -3⟩ := rfl
  have hlarge : 1 / 10 ^ 10 ≤ |Affine.determinant (⟨10, 2, 1, 20, 1, -3⟩ : Affine Rat)| := by
    rw [← Scalar.abs_rat]
    decide +kernel
  have hforth : turnedReference.pixelToGround? ⟨3 / 2, 4⟩ = some ⟨17, 19 / 2⟩ := by
    decide +kernel
  -- only the way to the ground is computed, and the ways back follow
  obtain ⟨hpositions, -⟩ := groundToPixel?_pixelToGround? hmap
  obtain ⟨hpixels, hgrounds⟩ := hpositions hlarge
  have hback := hpixels ⟨3 / 2, 4⟩
  rw [hforth, Option.bind_some] at hback
  exact ⟨_, hmap, hlarge, hforth, hback, hgrounds _⟩

/-! ## An image with small pixels -/

/-- A directory of an image in degrees, with pixels of a 2 ^ 18th of a degree, which is less than
half a metre. -/
def fineDirectory : Directory :=
  let scaled := Directory.insert { number := 0, offset := 8 } (doubles Tag.modelPixelScale
    [⟨0x3ED0000000000000⟩, ⟨0x3ED0000000000000⟩, ⟨0⟩])
  (scaled.1.insert (doubles Tag.modelTiepoint
    [⟨0⟩, ⟨0⟩, ⟨0⟩, ⟨0xC059000000000000⟩, ⟨0x4045000000000000⟩, ⟨0⟩])).1
where
  /-- An entry of doubles. -/
  doubles (tag : UInt16) (values : List Binary64) : Entry :=
    { tag, type := .known .double, count := values.length, value := .doubles values }

/-- What the directory says. -/
def fineReference : Georeference Rat where
  scale := some (1 / 2 ^ 18, 1 / 2 ^ 18, 0)
  tiePoints := [⟨0, 0, 0, -100, 42, 0⟩]
  matrix := none
  keys := []
  modelType := none
  horizontal := none
  vertical := none
  citation := none

theorem ofDirectory?_fine : ofDirectory? fineDirectory = .ok (some fineReference) := by
  decide +kernel

/-- The map of the image is invertible, but the position of a pixel does not come back. -/
theorem exists_position_lost :
    ofDirectory? fineDirectory = .ok (some fineReference) ∧
      ∃ (map : Affine Rat) (pixel ground : Point Rat), fineReference.affine? = some map ∧
        map.b * map.f - map.c * map.e ≠ 0 ∧
        fineReference.pixelToGround? pixel = some ground ∧
        fineReference.groundToPixel? ground = none := by
  refine ⟨ofDirectory?_fine, _, ⟨2, 4⟩, _, rfl, ?_, rfl, ?_⟩ <;> decide +kernel

end Tiff.Georeference

end Georef
