import Georef.Source.Resource
import Georef.Tiff.Decoding

/-!
# TIFF files

A file starts with a byte order marker, a number that tells the layout, and the position of the
first directory. Each directory gives the position of the next one; zero ends the chain.

A chain may be laid out to run forever. It is followed through at most `maxDirectories` directories,
and not to a position where it has been before.

* `Header.read`: the start of a file.
* `Header.directory`, `Header.first`, `Header.chain`: a directory at a position, the first one, and
  the whole chain.
* `Decoded`, `Decoded.describe`: a decoded file, and its summary.
-/

namespace Georef.Tiff

/-- What the start of a file says, and how its directories are to be read. -/
structure Header where
  options : Options
  /-- The position of the first directory; zero if there is none. -/
  firstOffset : Nat
  deriving DecidableEq, Repr

/-- A decoded file. -/
structure Decoded where
  order : ByteOrder
  layout : Layout
  /-- The directories in the order of the chain. -/
  directories : List Directory
  deriving Repr

/-- The most directories that are followed. -/
def maxDirectories : Nat := 1000

namespace Header

variable {ρ : Type} [Reader ρ]

/-- The layout that the number behind the byte order marker stands for. -/
def layoutOf (magic : UInt16) : Except Error Layout :=
  if magic = 42 then .ok .classic
  else if magic = 43 then .ok .large
  else .error (.magic magic)

/-- The start of a file. The cursor reads in the marked byte order from then on. -/
def read (policy : Terminator) : Cursor.Action ρ Header := do
  let marker := (← Cursor.bytes 2).toList
  match ByteOrder.ofMarker? marker with
  | none => throw (.byteOrder (FixedWidth.decode .big marker))
  | some order => Cursor.setOrder order
  let layout ← MonadExcept.ofExcept (layoutOf (← Cursor.next UInt16))
  if layout = .large then
    -- the large layout gives the width of positions, and a reserved word that is not looked at
    let width ← Cursor.next UInt16
    if width ≠ 8 then throw (.format (.offsetSize width))
    let _ ← Cursor.next UInt16
  let firstOffset ← natural layout.fieldWidth
  return { options := { layout, policy }, firstOffset }

/-- The directory at a position. -/
def directory (header : Header) (number offset : Nat) : Cursor.Action ρ Directory := do
  Cursor.seek offset
  Directory.read header.options number

/-- The first directory. -/
def first (header : Header) : Cursor.Action ρ Directory := do
  if header.firstOffset = 0 then throw (.format .noDirectories)
  header.directory 0 header.firstOffset

/-- The directories from a position on, with room for so many more; `seen` are the positions of the
chain so far, latest first. -/
def follow (header : Header) : (room : Nat) → (seen : List Nat) → (offset : Nat) →
    Cursor.Action ρ (List Directory)
  | 0, _, offset =>
    if offset = 0 then return [] else throw (.format .tooManyDirectories)
  | room + 1, seen, offset => do
    if offset = 0 then return []
    -- a position met before would lead round in a circle
    if seen.contains offset then throw (.format (.directoryLoop offset))
    let directory ← header.directory seen.length offset
    let rest ← follow header room (offset :: seen) directory.next
    return directory :: rest

/-- The whole chain. -/
def chain (header : Header) : Cursor.Action ρ Decoded := do
  let directories ← header.follow maxDirectories [] header.firstOffset
  return { order := (← get).order, layout := header.options.layout, directories }

end Header

/-! ## Open files -/

/-- A file whose start has been read. -/
structure OpenTiff where
  header : Header
  cursor : Cursor ResourceReader

namespace OpenTiff

/-- Reads the start of a file. -/
def ofResource (policy : Terminator) (resource : Resource) : Except Error OpenTiff := do
  let cursor ← resource.cursor .little
  let (outcome, cursor) := Cursor.run (Header.read policy) cursor
  return { header := ← outcome, cursor }

/-- The byte order of the file. -/
def order (file : OpenTiff) : ByteOrder :=
  file.cursor.order

/-- Reads from the file, which is then left where the reading ended. -/
def run {α : Type} (action : Header → Cursor.Action ResourceReader α) (file : OpenTiff) :
    Except Error α × OpenTiff :=
  let (outcome, cursor) := Cursor.run (action file.header) file.cursor
  (outcome, { file with cursor })

end OpenTiff

namespace Decoded

/-- Reads all directories of a file. -/
def ofResource (policy : Terminator) (resource : Resource) : Except Error Decoded := do
  (← OpenTiff.ofResource policy resource).run Header.chain |>.1

/-- The first directory. -/
def main? (tiff : Decoded) : Option Directory :=
  tiff.directories.head?

/-! ## Summary -/

/-- Yes or no. -/
def yesNo (holds : Bool) : String :=
  if holds then "Yes" else "No"

/-- A line for each entry that places an image on the ground. -/
def georeferencingLines (directory : Directory) : List String :=
  directory.georeferencing.map fun entry =>
    s!"  Tag {entry.tag.toNat}: {Tag.name entry.tag} ({entry.count} x {entry.type.name})"

/-- The lines about the first directory. -/
def imageLines (directory : Directory) : List String :=
  ["", "Main Image (IFD 0):"] ++
  (directory.dimensions?.toList.map fun size =>
    s!"  Dimensions: {size.width} x {size.height}") ++
  [s!"  Samples per pixel: {directory.samplesPerPixel}"] ++
  (directory.sampleType?.toList.map fun type => s!"  Sample type: {type.name}") ++
  (directory.compression?.toList.map fun scheme => s!"  Compression: {scheme}") ++
  [s!"  Tiled: {yesNo directory.isTiled}"] ++
  (directory.tileDimensions?.toList.map fun size =>
    s!"  Tile size: {size.width} x {size.height}") ++
  [s!"  GeoTIFF: {yesNo directory.isGeoreferenced}"] ++
  (if directory.isGeoreferenced then
    ["", "GeoTIFF Tags Found:"] ++ georeferencingLines directory
  else []) ++
  (if directory.warnings.isEmpty then []
  else ["", s!"Warnings: {directory.warnings.length}"])

/-- The summary of a file, line by line. -/
def lines (tiff : Decoded) : List String :=
  let format := if tiff.layout = .large then "BigTIFF" else "TIFF"
  ["TIFF File Information:",
    s!"  Format: {format}",
    s!"  Byte order: {tiff.order.label}",
    s!"  Number of IFDs: {tiff.directories.length}"] ++
  (tiff.main?.toList.flatMap imageLines)

/-- The summary of a file. -/
def describe (tiff : Decoded) : String :=
  String.join (tiff.lines.map fun line => line ++ "\n")

end Decoded

end Georef.Tiff
