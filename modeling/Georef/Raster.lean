import Georef.Json.Document

/-!
# Rasters

The size of an image, the type of its samples, and the part of the ground that it covers.
-/

namespace Georef

/-! ## Samples -/

/-- The type of the samples of an image. -/
inductive SampleType where
  | u8
  | u16
  | u32
  | i8
  | i16
  | i32
  | f32
  | f64
  deriving DecidableEq, Repr

namespace SampleType

/-- The type for a sample format (1 unsigned, 2 signed, 3 floating point) and a number of bits. -/
def ofFormat? (format bits : Nat) : Option SampleType :=
  match format, bits with
  | 1, 8 => some u8
  | 1, 16 => some u16
  | 1, 32 => some u32
  | 2, 8 => some i8
  | 2, 16 => some i16
  | 2, 32 => some i32
  | 3, 32 => some f32
  | 3, 64 => some f64
  | _, _ => none

/-- The bytes that a sample takes. -/
def width : SampleType → Nat
  | u8 | i8 => 1
  | u16 | i16 => 2
  | u32 | i32 | f32 => 4
  | f64 => 8

def name : SampleType → String
  | u8 => "U8"
  | u16 => "U16"
  | u32 => "U32"
  | i8 => "I8"
  | i16 => "I16"
  | i32 => "I32"
  | f32 => "F32"
  | f64 => "F64"

instance : Json.ToDocument SampleType := ⟨fun type => .text type.name⟩

end SampleType

/-! ## Size -/

/-- The size of an image in pixels. -/
structure Dimensions where
  width : Nat
  height : Nat
  deriving DecidableEq, Repr

/-- The number of pixels, or the greatest number that 64 bits hold if there are more. -/
def Dimensions.pixelCount (size : Dimensions) : Nat :=
  min (size.width * size.height) 0xFFFFFFFFFFFFFFFF

instance : Json.ToDocument Dimensions where
  document size :=
    .object [("width", Json.document size.width), ("height", Json.document size.height)]

/-! ## Extent -/

/-- A rectangle on the ground; its sides belong to it. -/
structure Extent (α : Type) where
  west : α
  south : α
  east : α
  north : α
  deriving DecidableEq, Repr

namespace Extent

variable {α : Type} [Scalar α]

/-- Whether a point lies in the rectangle. -/
def contains (extent : Extent α) (x y : α) : Bool :=
  Scalar.between extent.west extent.east x && Scalar.between extent.south extent.north y

/-- The area of the rectangle. -/
def area (extent : Extent α) : α :=
  (extent.east - extent.west) * (extent.north - extent.south)

instance : Json.ToDocument (Extent α) where
  document extent := .object [
    ("west", Json.ofScalar extent.west), ("south", Json.ofScalar extent.south),
    ("east", Json.ofScalar extent.east), ("north", Json.ofScalar extent.north)]

end Extent

end Georef
