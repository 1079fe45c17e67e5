import Georef.Proofs.Tiff.GroundPositions

/-!
# The rectangle around an image

The rectangle is made of the positions of the four corners alone. That is enough: on the ground a
coordinate grows with the column by as much everywhere, and with the row as well, so that it is
least at a corner and greatest at a corner, whatever the signs are. As all four sides are taken from
corners, no rectangle around the image is smaller. Numbers are exact here.

The module introduces:

* `Dimensions.Covers size pixel` — a position on an image, whose edges belong to it.
* `Extent.TouchedBy box points` — each side of a rectangle goes through one of the points;
  `Extent.Within box other` — a rectangle lies in another one.

`Georeference.boundingBox?_encloses` says that the rectangle is the smallest one around the image.
-/

namespace Georef

/-! ## Positions on an image -/

/-- `size.Covers pixel`: the position lies on an image of this size, whose edges belong to it. -/
structure Dimensions.Covers (size : Dimensions) (pixel : Point Rat) : Prop where
  left_le : 0 ≤ pixel.x
  le_right : pixel.x ≤ size.width
  top_le : 0 ≤ pixel.y
  le_bottom : pixel.y ≤ size.height

/-! ## Rectangles -/

namespace Extent

variable {box other : Extent Rat}

/-- `box.TouchedBy points`: each of the four sides goes through one of the points. -/
structure TouchedBy (box : Extent Rat) (points : List (Point Rat)) : Prop where
  west : ∃ point ∈ points, point.x = box.west
  south : ∃ point ∈ points, point.y = box.south
  east : ∃ point ∈ points, point.x = box.east
  north : ∃ point ∈ points, point.y = box.north

/-- `box.Within other`: the rectangle lies in the other one. -/
structure Within (box other : Extent Rat) : Prop where
  west_le : other.west ≤ box.west
  south_le : other.south ≤ box.south
  le_east : box.east ≤ other.east
  le_north : box.north ≤ other.north

theorem contains_iff {x y : Rat} :
    box.contains x y ↔ (box.west ≤ x ∧ x ≤ box.east) ∧ box.south ≤ y ∧ y ≤ box.north := by
  simp only [contains, Scalar.between, Scalar.ge, Bool.and_eq_true]
  exact and_congr (and_congr decide_eq_true_iff decide_eq_true_iff)
    (and_congr decide_eq_true_iff decide_eq_true_iff)

/-- A rectangle that is touched by points lies in every one that contains them. -/
theorem TouchedBy.within {points : List (Point Rat)} (h : box.TouchedBy points)
    (hpoints : ∀ point ∈ points, other.contains point.x point.y) : box.Within other := by
  obtain ⟨⟨p, hp, hwest⟩, ⟨q, hq, hsouth⟩, ⟨r, hr, heast⟩, ⟨s, hs, hnorth⟩⟩ := h
  obtain ⟨⟨hwest', -⟩, -⟩ := contains_iff.1 (hpoints p hp)
  obtain ⟨-, hsouth', -⟩ := contains_iff.1 (hpoints q hq)
  obtain ⟨⟨-, heast'⟩, -⟩ := contains_iff.1 (hpoints r hr)
  obtain ⟨-, -, hnorth'⟩ := contains_iff.1 (hpoints s hs)
  exact ⟨hwest ▸ hwest', hsouth ▸ hsouth', heast ▸ heast', hnorth ▸ hnorth'⟩

end Extent

/-! ## Coordinates on the ground -/

namespace Affine

variable {size : Dimensions} {pixel corner : Point Rat}

theorem mem_corners_iff :
    corner ∈ corners size ↔
      (corner.x = 0 ∨ corner.x = size.width) ∧ (corner.y = 0 ∨ corner.y = size.height) := by
  have hcorners : corners size =
      [⟨0, 0⟩, ⟨size.width, 0⟩, ⟨0, size.height⟩, (⟨size.width, size.height⟩ : Point Rat)] := rfl
  rcases corner with ⟨x, y⟩
  simp only [hcorners, List.mem_cons, List.not_mem_nil, or_false, Point.mk.injEq]
  tauto

theorem corners_ne_nil : (corners size : List (Point Rat)) ≠ [] :=
  List.cons_ne_nil _ _

theorem covers_of_mem_corners (h : corner ∈ corners size) : size.Covers corner := by
  have hends {value : Rat} {high : Nat} (hend : value = 0 ∨ value = high) :
      0 ≤ value ∧ value ≤ high := by
    rcases hend with rfl | rfl <;> simp
  obtain ⟨hx, hy⟩ := mem_corners_iff.1 h
  exact ⟨(hends hx).1, (hends hx).2, (hends hy).1, (hends hy).2⟩

/-- A coordinate on the ground: the same sum at all positions. -/
def coordinate (start right down : Rat) (pixel : Point Rat) : Rat :=
  start + right * pixel.x + down * pixel.y

/-- At one of its ends an interval has no greater multiple of a number than inside. -/
theorem exists_end_le {value high : Rat} (hlow : 0 ≤ value) (hhigh : value ≤ high) (slope : Rat) :
    ∃ last, (last = 0 ∨ last = high) ∧ slope * last ≤ slope * value := by
  rcases le_total 0 slope with hrise | hfall
  · exact ⟨0, .inl rfl, mul_le_mul_of_nonneg_left hlow hrise⟩
  · exact ⟨high, .inr rfl, mul_le_mul_of_nonpos_left hhigh hfall⟩

/-- A coordinate is at one of the corners no greater than at a position on the image. -/
theorem exists_corner_le (h : size.Covers pixel) (start right down : Rat) :
    ∃ corner ∈ corners size,
      coordinate start right down corner ≤ coordinate start right down pixel := by
  -- the best column and the best row are chosen apart, and make up one of the four corners
  obtain ⟨x, hx, hright⟩ := exists_end_le h.left_le h.le_right right
  obtain ⟨y, hy, hdown⟩ := exists_end_le h.top_le h.le_bottom down
  refine ⟨⟨x, y⟩, mem_corners_iff.2 ⟨hx, hy⟩, ?_⟩
  simp only [coordinate]
  linarith

/-- At another one it is no less: the same holds with all signs turned. -/
theorem exists_le_corner (h : size.Covers pixel) (start right down : Rat) :
    ∃ corner ∈ corners size,
      coordinate start right down pixel ≤ coordinate start right down corner := by
  obtain ⟨corner, hcorner, hle⟩ := exists_corner_le h (-start) (-right) (-down)
  refine ⟨corner, hcorner, ?_⟩
  simp only [coordinate] at hle ⊢
  linarith

/-- So it lies between what it is at the corners. -/
theorem coordinate_between (h : size.Covers pixel) (start right down : Rat) :
    Scalar.least ((corners size).map (coordinate start right down)) ≤
        coordinate start right down pixel ∧
      coordinate start right down pixel ≤
        Scalar.greatest ((corners size).map (coordinate start right down)) := by
  have hne : (corners size).map (coordinate start right down) ≠ [] := by
    simpa using corners_ne_nil
  obtain ⟨low, hlow, hlowLe⟩ := exists_corner_le h start right down
  obtain ⟨high, hhigh, hleHigh⟩ := exists_le_corner h start right down
  constructor
  · exact ((Scalar.least_rat hne).2 _ (List.mem_map_of_mem hlow)).trans hlowLe
  · exact hleHigh.trans ((Scalar.greatest_rat hne).2 _ (List.mem_map_of_mem hhigh))

/-! ## The rectangle of a map -/

theorem contains_boundingBox (map : Affine Rat) (h : size.Covers pixel) :
    (map.boundingBox size).contains (map.apply pixel).x (map.apply pixel).y :=
  Extent.contains_iff.2
    ⟨coordinate_between h map.a map.b map.c, coordinate_between h map.d map.e map.f⟩

theorem touchedBy_boundingBox (map : Affine Rat) (size : Dimensions) :
    (map.boundingBox size).TouchedBy ((corners size).map map.apply) := by
  have hne (part : Point Rat → Rat) : ((corners size).map map.apply).map part ≠ [] := by
    simpa using corners_ne_nil
  constructor
  · exact List.mem_map.1 (Scalar.least_rat (hne Point.x)).1
  · exact List.mem_map.1 (Scalar.least_rat (hne Point.y)).1
  · exact List.mem_map.1 (Scalar.greatest_rat (hne Point.x)).1
  · exact List.mem_map.1 (Scalar.greatest_rat (hne Point.y)).1

end Affine

/-! ## Images -/

namespace Tiff.Georeference

/-- The rectangle of an image contains all positions on it. Each of its sides goes through a corner
of the image, so that no rectangle that contains the image is smaller. -/
theorem boundingBox?_encloses {reference : Georeference Rat} {map : Affine Rat}
    (hmap : reference.affine? = some map) (size : Dimensions) :
    ∃ box, reference.boundingBox? size = some box ∧
      (∀ pixel, size.Covers pixel → ∃ ground, reference.pixelToGround? pixel = some ground ∧
        box.contains ground.x ground.y) ∧
      box.TouchedBy ((Affine.corners size).filterMap reference.pixelToGround?) ∧
      ∀ other : Extent Rat,
        (∀ pixel, size.Covers pixel → ∀ ground, reference.pixelToGround? pixel = some ground →
          other.contains ground.x ground.y) → box.Within other := by
  have hcorners : (Affine.corners size).filterMap reference.pixelToGround? =
      (Affine.corners size).map map.apply := by
    rw [← List.filterMap_eq_map]
    exact List.filterMap_congr fun pixel _ => pixelToGround?_of_affine? hmap pixel
  have htouched := map.touchedBy_boundingBox size
  refine ⟨map.boundingBox size, by rw [boundingBox?, hmap, Option.map_some], ?_, ?_, ?_⟩
  · intro pixel hpixel
    exact ⟨_, pixelToGround?_of_affine? hmap pixel, map.contains_boundingBox hpixel⟩
  · rw [hcorners]
    exact htouched
  · intro other hother
    apply htouched.within
    intro point hpoint
    obtain ⟨corner, hcorner, rfl⟩ := List.mem_map.1 hpoint
    exact hother corner (Affine.covers_of_mem_corners hcorner) _
      (pixelToGround?_of_affine? hmap corner)

/-- The image that is sheared and turned over: each of its four corners is on a side of its own. -/
theorem boundingBox?_encloses_turned :
    ∃ map box, turnedReference.affine? = some map ∧ Dimensions.Covers ⟨4, 2⟩ ⟨1, 1⟩ ∧
      turnedReference.boundingBox? ⟨4, 2⟩ = some box ∧ box = ⟨10, 14, 20, 24⟩ ∧
      turnedReference.pixelToGround? ⟨1, 1⟩ = some ⟨13, 18⟩ ∧ box.contains 13 18 ∧
      box.TouchedBy [⟨10, 20⟩, ⟨18, 24⟩, ⟨12, 14⟩, ⟨20, 18⟩] := by
  have hmap : turnedReference.affine? = some ⟨10, 2, 1, 20, 1, -3⟩ := rfl
  have hcovers : Dimensions.Covers ⟨4, 2⟩ ⟨1, 1⟩ := by
    constructor <;> decide +kernel
  have hrectangle : turnedReference.boundingBox? ⟨4, 2⟩ = some ⟨10, 14, 20, 24⟩ := by
    decide +kernel
  have hforth : turnedReference.pixelToGround? ⟨1, 1⟩ = some ⟨13, 18⟩ := by
    decide +kernel
  have hcorners : (Affine.corners ⟨4, 2⟩).filterMap turnedReference.pixelToGround? =
      [⟨10, 20⟩, ⟨18, 24⟩, ⟨12, 14⟩, ⟨20, 18⟩] := by
    decide +kernel
  obtain ⟨box, hbox, hcontains, htouched, -⟩ := boundingBox?_encloses hmap ⟨4, 2⟩
  obtain ⟨ground, hground, hinside⟩ := hcontains ⟨1, 1⟩ hcovers
  obtain rfl := Option.some.inj (hforth.symm.trans hground)
  obtain rfl := Option.some.inj (hrectangle.symm.trans hbox)
  rw [hcorners] at htouched
  exact ⟨_, _, hmap, hcovers, hbox, rfl, hforth, hinside, htouched⟩

end Tiff.Georeference

end Georef
