import Georef.Affine
import Georef.Crs.Registry
import Georef.Tiff.GeoKey

/-!
# Georeferences

What the entries of a directory say about the place of its image: a scale and pairs of points, or a
matrix, and the geographic keys, from which the codes of the reference systems are taken.

* `Georeference.ofDirectory?`: the georeference of a directory that has one.
* `Georeference.affine?`: the map from pixels to the ground.
* `Georeference.resolve`: the reference system of the image.
* `Georeference.describe`: a summary.
-/

namespace Georef.Tiff

/-- A pixel position with its ground position. -/
structure TiePoint (α : Type) where
  pixelX : α
  pixelY : α
  pixelZ : α
  groundX : α
  groundY : α
  groundZ : α
  deriving DecidableEq, Repr

/-- The place of an image on the ground. -/
structure Georeference (α : Type) where
  /-- The size of a pixel along three axes. -/
  scale : Option (α × α × α)
  tiePoints : List (TiePoint α)
  /-- A matrix of four rows and four columns, row by row. -/
  matrix : Option (Vector α 16)
  /-- The geographic keys in the order of the key table. -/
  keys : List (GeoKey α)
  modelType : Option UInt16
  /-- The code of the projected or else the geographic system. -/
  horizontal : Option UInt32
  vertical : Option UInt32
  /-- The first text that describes the reference system. -/
  citation : Option String
  deriving DecidableEq, Repr

namespace Georeference

variable {α : Type} [Scalar α]

/-! ## Parts -/

/-- The scale, if there are at least three numbers. -/
def scaleOf : List α → Option (α × α × α)
  | x :: y :: z :: _ => some (x, y, z)
  | _ => none

/-- A tie point for each six numbers. -/
def tiePointsOf : List α → List (TiePoint α)
  | px :: py :: pz :: gx :: gy :: gz :: rest => ⟨px, py, pz, gx, gy, gz⟩ :: tiePointsOf rest
  | _ => []

/-- The matrix of the first sixteen numbers. -/
def matrixOf (values : List α) : Option (Vector α 16) :=
  let array := (values.take 16).toArray
  if h : array.size = 16 then some ⟨array, h⟩ else none

/-- The first key with a given number. -/
def keyOf (keys : List (GeoKey α)) (id : UInt16) : Option (GeoKey α) :=
  keys.find? fun key => key.id == id

/-- The code of a reference system in a key; zero and the code for a system described by the file
itself are none. -/
def codeOf (keys : List (GeoKey α)) (id : UInt16) : Option UInt32 :=
  (((keyOf keys id).bind GeoKey.short?).filter fun code =>
    code ≠ 0 ∧ code ≠ GeoKeyId.userDefined).map UInt16.toUInt32

/-- The keys that may hold a citation, the preferred one first. -/
def citationKeys : List UInt16 :=
  [GeoKeyId.citation, GeoKeyId.projectedCitation, GeoKeyId.geographicCitation]

/-- The georeference of a directory; none if no entry places the image on the ground. -/
def ofDirectory? (directory : Directory) : Except Error (Option (Georeference α)) := do
  -- keys without a place on the ground are not read at all, so faults in them do not matter
  if !directory.isGeoreferenced then return none
  let numbers (tag : UInt16) : List α :=
    ((directory.value? tag).bind Value.numbers?).getD []
  let keys ← GeoKey.table directory
  return some {
    scale := scaleOf (numbers Tag.modelPixelScale)
    tiePoints := tiePointsOf (numbers Tag.modelTiepoint)
    matrix := matrixOf (numbers Tag.modelTransformation)
    keys
    modelType := (keyOf keys GeoKeyId.modelType).bind GeoKey.short?
    horizontal := (codeOf keys GeoKeyId.projectedType).or (codeOf keys GeoKeyId.geographicType)
    vertical := codeOf keys GeoKeyId.verticalType
    citation := citationKeys.findSome? fun id => (keyOf keys id).bind GeoKey.text? }

/-! ## The map from pixels to the ground -/

/-- The map of a matrix: of its first two rows, the columns for the pixel position and the shift. -/
def affineOfMatrix (m : Vector α 16) : Affine α :=
  { a := m[3], b := m[0], c := m[1], d := m[7], e := m[4], f := m[5] }

/-- The map of a scale with a tie point: rows run downwards. -/
def affineOfScale (scale : α × α × α) (tie : TiePoint α) : Affine α :=
  { a := tie.groundX - scale.1 * tie.pixelX
    b := scale.1
    c := Scalar.ofNat 0
    d := tie.groundY + scale.2.1 * tie.pixelY
    e := Scalar.ofNat 0
    f := -scale.2.1 }

/-- The map from pixels to the ground: that of the matrix, or else of the scale with the first tie
point. -/
def affine? (reference : Georeference α) : Option (Affine α) :=
  match reference.matrix with
  | some matrix => some (affineOfMatrix matrix)
  | none => do return affineOfScale (← reference.scale) (← reference.tiePoints.head?)

def pixelToGround? (reference : Georeference α) (pixel : Point α) : Option (Point α) :=
  reference.affine?.map fun map => map.apply pixel

def groundToPixel? (reference : Georeference α) (ground : Point α) : Option (Point α) :=
  reference.affine?.bind fun map => map.invert? ground

def boundingBox? (reference : Georeference α) (size : Dimensions) : Option (Extent α) :=
  reference.affine?.map fun map => map.boundingBox size

/-! ## The reference system -/

/-- The reference system of the image: a compound one if there is a vertical code. -/
def resolve (registry : Crs.Registry) (reference : Georeference α) :
    Except Error Crs.Resolved := do
  match reference.horizontal with
  | none => throw (.missingTag GeoKeyId.geographicType)
  | some horizontal =>
    match reference.vertical with
    | some vertical => return .compound (← registry.getCompound { horizontal, vertical })
    | none => return .single (← registry.get horizontal)

/-! ## Summary -/

/-- A number as it is shown. -/
def shown (x : α) : String :=
  (Scalar.toDouble x).display

/-- The summary, line by line. -/
def lines (reference : Georeference α) : List String :=
  ["", "GeoTIFF Information:"] ++
  (reference.horizontal.toList.map fun code => s!"  Horizontal CRS: EPSG:{code.toNat}") ++
  (reference.vertical.toList.map fun code => s!"  Vertical CRS: EPSG:{code.toNat}") ++
  (reference.citation.toList.map fun text => s!"  Citation: {text}") ++
  (reference.scale.toList.map fun (x, y, _) => s!"  Pixel Size: {shown x} x {shown y}") ++
  (reference.tiePoints.head?.toList.map fun tie =>
    s!"  Origin (geo): ({shown tie.groundX}, {shown tie.groundY})") ++
  (if reference.keys.isEmpty then []
  else "  GeoKeys:" :: reference.keys.map fun key => s!"    {key.describe}")

/-- The summary. -/
def describe (reference : Georeference α) : String :=
  String.join (reference.lines.map fun line => line ++ "\n")

end Georeference

/-! ## Documents -/

instance {α : Type} [Scalar α] : Json.ToDocument (TiePoint α) where
  document tie := .object [
    ("pixel_x", Json.ofScalar tie.pixelX), ("pixel_y", Json.ofScalar tie.pixelY),
    ("pixel_z", Json.ofScalar tie.pixelZ), ("geo_x", Json.ofScalar tie.groundX),
    ("geo_y", Json.ofScalar tie.groundY), ("geo_z", Json.ofScalar tie.groundZ)]

instance {α : Type} [Scalar α] : Json.ToDocument (Georeference α) where
  document reference := .object [
    ("pixel_scale", Json.document (reference.scale.map fun (x, y, z) =>
      [Json.ofScalar x, Json.ofScalar y, Json.ofScalar z])),
    ("tiepoints", Json.document reference.tiePoints),
    ("transform", Json.document (reference.matrix.map fun m => m.toList.map Json.ofScalar)),
    ("keys", Json.document reference.keys),
    ("model_type", Json.document reference.modelType),
    ("horizontal_code", Json.document reference.horizontal),
    ("vertical_code", Json.document reference.vertical),
    ("citation", Json.document reference.citation)]

end Georef.Tiff
