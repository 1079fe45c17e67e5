import Georef.Raster
import Georef.Tiff.EntryTable

/-!
# Directories

A directory has entries, at most one for each tag, in the order in which the tags were first seen.
An entry for a tag that is there already takes the place of the earlier one, and the directory keeps
a warning.

* `Directory.entries`, `Directory.warnings`: what a directory holds, as lists.
* `Directory.insert`, `Directory.warn`: the two ways a directory changes.
* `Directory.get?`, `Directory.value?`, `Directory.natural?`: the entry of a tag, and its values.
* `Directory.dimensions?`, `Directory.sampleType?` and others: what the entries say of an image.
-/

namespace Georef.Tiff

/-- Something odd that a directory was read in spite of. -/
inductive Warning where
  /-- An entry of unknown type was kept as bytes. -/
  | unsupportedType (tag code : UInt16)
  /-- An entry replaced an earlier one of the same tag. -/
  | duplicateTag (tag : UInt16)
  deriving DecidableEq, Repr

/-- A directory. -/
structure Directory where
  /-- The place of the directory in its file, counted from zero. -/
  number : Nat
  /-- Where the directory is stored. -/
  offset : Nat
  /-- Where the next directory is stored; zero if there is none. -/
  next : Nat := 0
  table : EntryTable := .empty
  /-- The warnings, latest first. -/
  latestWarnings : List Warning := []
  deriving DecidableEq, Repr

namespace Directory

/-! ## Entries -/

/-- The entries in the order in which their tags were first seen. -/
def entries (directory : Directory) : List Entry :=
  directory.table.toList

/-- The warnings in the order in which they were given. -/
def warnings (directory : Directory) : List Warning :=
  directory.latestWarnings.reverse

/-- The entry of a tag. -/
def get? (directory : Directory) (tag : UInt16) : Option Entry :=
  directory.table.get? tag

/-- Whether there is an entry of a tag. -/
def contains (directory : Directory) (tag : UInt16) : Bool :=
  (directory.get? tag).isSome

/-- The directory with one more warning. -/
def warn (directory : Directory) (warning : Warning) : Directory :=
  { directory with latestWarnings := warning :: directory.latestWarnings }

/-- The directory with an entry put in the place of the earlier one of its tag, or at the end, and
the entry that was replaced. -/
def insert (directory : Directory) (entry : Entry) : Directory × Option Entry :=
  let changed := { directory with table := directory.table.insert entry }
  match directory.get? entry.tag with
  | some old => (changed.warn (.duplicateTag entry.tag), some old)
  | none => (changed, none)

@[simp]
theorem warnings_warn (directory : Directory) (warning : Warning) :
    (directory.warn warning).warnings = directory.warnings ++ [warning] := by
  simp [warnings, warn]

/-- The values of a tag. -/
def value? (directory : Directory) (tag : UInt16) : Option Value :=
  (directory.get? tag).map Entry.value

/-- The first unsigned value of a tag. -/
def natural? (directory : Directory) (tag : UInt16) : Option Nat :=
  ((directory.value? tag).bind Value.natural?).map UInt64.toNat

/-! ## The image -/

/-- A size given by two tags. -/
def size? (directory : Directory) (widthTag heightTag : UInt16) : Option Dimensions := do
  return { width := ← directory.natural? widthTag, height := ← directory.natural? heightTag }

def dimensions? (directory : Directory) : Option Dimensions :=
  directory.size? Tag.imageWidth Tag.imageLength

def tileDimensions? (directory : Directory) : Option Dimensions :=
  directory.size? Tag.tileWidth Tag.tileLength

def compression? (directory : Directory) : Option Nat :=
  directory.natural? Tag.compression

/-- One unless stated otherwise. -/
def samplesPerPixel (directory : Directory) : Nat :=
  (directory.natural? Tag.samplesPerPixel).getD 1

/-- The bits of a sample of the first channel. -/
def bitsPerSample? (directory : Directory) : Option Nat :=
  directory.natural? Tag.bitsPerSample

/-- Unsigned unless stated otherwise. -/
def sampleFormat (directory : Directory) : Nat :=
  (directory.natural? Tag.sampleFormat).getD 1

def sampleType? (directory : Directory) : Option SampleType :=
  directory.bitsPerSample?.bind (SampleType.ofFormat? directory.sampleFormat)

def isTiled (directory : Directory) : Bool :=
  directory.contains Tag.tileWidth

/-- The entries that place the image on the ground. -/
def georeferencing (directory : Directory) : List Entry :=
  directory.entries.filter fun entry => Tag.georeferencing.contains entry.tag

def isGeoreferenced (directory : Directory) : Bool :=
  directory.entries.any fun entry => Tag.georeferencing.contains entry.tag

end Directory

/-! ## Documents -/

instance : Json.ToDocument Entry where
  document entry := .object [
    ("tag", Json.document entry.tag),
    ("field_type", Json.document entry.type),
    ("count", Json.document entry.count),
    ("value_offset", Json.document entry.valueOffset),
    ("value", Json.document entry.value)]

instance : Json.ToDocument Warning where
  document
    | .unsupportedType tag code => .object [
      ("warning", .text "unsupported_field_type"),
      ("tag", Json.document tag),
      ("field_type", Json.document code)]
    | .duplicateTag tag => .object [
      ("warning", .text "duplicate_tag"),
      ("tag", Json.document tag)]

instance : Json.ToDocument Directory where
  document directory := .object [
    ("number", Json.document directory.number),
    ("offset", Json.document directory.offset),
    ("next_offset", Json.document directory.next),
    ("entries", Json.document directory.entries),
    ("warnings", Json.document directory.warnings)]

end Georef.Tiff
