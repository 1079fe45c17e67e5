import Georef.Tiff.File
import Georef.Tiff.Georeference

/-!
# Images

An image is known by its size, the type of its samples and its place on the ground, all of them
taken from the first directory of a file. Pixels are not read.
-/

namespace Georef.Tiff

/-- What is known of an image. -/
structure Image (α : Type) where
  name : String
  size : Dimensions
  sampleType : Option SampleType
  reference : Option (Georeference α)
  /-- The first directory of the file. -/
  directory : Directory

namespace Image

variable {α : Type} [Scalar α]

/-- The image that a directory describes. -/
def ofDirectory (name : String) (directory : Directory) : Except Error (Image α) := do
  match directory.dimensions? with
  | none =>
    let missing := if directory.contains Tag.imageWidth then Tag.imageLength else Tag.imageWidth
    throw (.missingTag missing)
  | some size =>
    let reference ← Georeference.ofDirectory? directory
    return { name, size, sampleType := directory.sampleType?, reference, directory }

/-- The image in a file. -/
def ofResource (policy : Terminator) (resource : Resource) : Except Error (Image α) := do
  let file ← OpenTiff.ofResource policy resource
  ofDirectory resource.name (← (file.run Header.first).1)

/-- The part of the ground that the image covers. -/
def extent? (image : Image α) : Option (Extent α) :=
  image.reference.bind fun reference => reference.boundingBox? image.size

/-- Images inside archives are not read. -/
def readsArchives : Bool := false

instance : Json.ToDocument (Image α) where
  document image := .object [
    ("name", .text image.name),
    ("dimensions", Json.document image.size),
    ("data_type", Json.document image.sampleType),
    ("geo", Json.document image.reference),
    ("directory", Json.document image.directory)]

end Image

end Georef.Tiff
