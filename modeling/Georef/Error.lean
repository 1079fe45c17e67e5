import Georef.Crs.ReferenceSystem
import Georef.Decimal.Layout
import Georef.Shift.Datum
import Georef.Text.Quoted

/-!
# What can go wrong

Every failure is a cause: what was asked for, and what stood in the way. The wording is in the
`message` functions and nowhere else.

* `IoFault`: the source of the bytes fails.
* `GridFault`, `FormatFault`, `ConfigFault`, `Gap`: a grid file, another input, a configuration or
  a request is refused.
* `Error`, `Error.message`: all failures, and their texts.
-/

namespace Georef

/-! ## Causes -/

/-- A failure of a byte source. -/
inductive IoFault where
  /-- No file of that name. -/
  | notFound
  /-- The source ends before a read is complete. -/
  | truncated
  /-- A position before the start or beyond the largest one. -/
  | badPosition
  /-- The bytes do not start with a gzip header. -/
  | badGzipHeader
  /-- A compressed block cannot be read. -/
  | badDeflate
  /-- The inflated bytes do not have the stored checksum or length. -/
  | badChecksum
  /-- A text file is not UTF-8. -/
  | notText
  /-- The store does not hand out a file, and says why. -/
  | denied (reason : String)
  deriving DecidableEq, Repr

/-- A reason to refuse a grid file. Numbers are given as they are shown. -/
inductive GridFault where
  /-- Another label stands where a record was expected. -/
  | unexpectedRecord (expected : String) (offset : Nat) (found : String)
  | unknownUnits (name : String)
  /-- A header length, named by its record, is not the only one there is. -/
  | headerLength (record : String) (found : Int)
  | negativeFileCount (found : Int)
  | noByteOrder
  | nonPositiveIncrements (grid : String) (lat lon : Binary64)
  | emptyExtent (grid : String)
  | notWholeSteps (grid : String) (lat lon : Binary64)
  | nodeCount (grid : String) (declared : Int) (rows cols : Binary64)
  /-- Neither a sub-grid nor the end of the file follows. -/
  | unexpectedSection (offset : Nat) (found : String)
  | fileCount (declared : Int) (found : Nat)
  | duplicateName (grid : String)
  | unknownParent (grid parent : String)
  | ownParent (grid : String)
  deriving DecidableEq, Repr

/-- A reason to refuse another input. -/
inductive FormatFault where
  | oddUtf16 (length : Nat)
  | directoryTooLong (offset entries : Nat)
  | valueTooLarge (tag : UInt16)
  | offsetSize (found : UInt16)
  | noDirectories
  | tooManyDirectories
  | directoryLoop (offset : Nat)
  | keyTableNotShort
  | keyTableTooShort (values : Nat)
  | compoundAsSingle (id : UInt32)
  | zeroId
  | kindTaken (id : UInt32) (kind : Crs.Kind)
  | pairTaken (id : UInt32) (pair : Crs.Pair)
  | notHorizontal (id : UInt32) (kind : Crs.Kind)
  | notVertical (id : UInt32) (kind : Crs.Kind)
  | missingComponent (id : UInt32)
  /-- A catalog row cannot be read; rows are counted from one. -/
  | catalogRow (row : Nat)
  /-- A row of points cannot be read; rows are counted from one. -/
  | pointRow (row : Nat)
  deriving DecidableEq, Repr

/-- A reason to refuse a configuration. -/
inductive ConfigFault where
  | unreadable
  | badFlag (setting value : String)
  | emptyCache
  | emptyBody
  | emptyAddress
  | noGrids
  deriving DecidableEq, Repr

/-- Something this library has no way to do. -/
inductive Gap where
  | fieldType (code : UInt16)
  | noSteps (source target : Datum)
  deriving DecidableEq, Repr

/-- A failure of an operation. -/
inductive Error where
  | io (fault : IoFault)
  /-- A read of `needed` bytes at `offset`, where only `available` are left. -/
  | endOfData (offset needed available : Nat)
  | grid (fault : GridFault)
  | unknownSystem (id : UInt32)
  | format (fault : FormatFault)
  | byteOrder (marker : UInt16)
  | magic (found : UInt16)
  | badOffset (target : Nat)
  | missingTag (tag : UInt16)
  | unsupported (gap : Gap)
  | config (fault : ConfigFault)
  deriving DecidableEq, Repr

/-! ## Texts -/

/-- The text of a source failure. -/
def IoFault.message : IoFault → String
  | notFound => "No such file or directory (os error 2)"
  | truncated => "unexpected end of file"
  | badPosition => "invalid seek to a negative or overflowing position"
  | badGzipHeader => "invalid gzip header"
  | badDeflate => "corrupt deflate stream"
  | badChecksum => "corrupt gzip stream does not have a matching checksum"
  | notText => "stream did not contain valid UTF-8"
  | denied reason => reason

open Text in
/-- The text of a grid file fault. -/
def GridFault.message : GridFault → String
  | unexpectedRecord expected offset found =>
    s!"expected record {expected} at offset {offset}, found {quoted found}"
  | unknownUnits name => s!"unknown GS_TYPE {quoted name}"
  | headerLength record found => s!"{record} is {found}, expected 11"
  | negativeFileCount found => s!"NUM_FILE is {found}"
  | noByteOrder => "NUM_OREC is not 11 in either byte order"
  | nonPositiveIncrements grid lat lon =>
    s!"sub-grid {grid} has non-positive increments ({lat.display}, {lon.display})"
  | emptyExtent grid => s!"sub-grid {grid} has an empty extent"
  | notWholeSteps grid lat lon =>
    s!"sub-grid {grid} extent is not a whole number of increments " ++
      s!"({lat.display} x {lon.display})"
  | nodeCount grid declared rows cols =>
    s!"sub-grid {grid} declares {declared} nodes but its extent holds " ++
      s!"{rows.display} x {cols.display}"
  | unexpectedSection offset found =>
    s!"expected SUB_NAME or END at offset {offset}, found {quoted found}"
  | fileCount declared found => s!"NUM_FILE is {declared} but {found} sub-grids were found"
  | duplicateName grid => s!"duplicate sub-grid name {quoted grid}"
  | unknownParent grid parent =>
    s!"sub-grid {quoted grid} names unknown parent {quoted parent}"
  | ownParent grid => s!"sub-grid {quoted grid} is its own parent"

/-- The text of a format fault. -/
def FormatFault.message : FormatFault → String
  | oddUtf16 length => s!"UTF-16 field has odd length {length}"
  | directoryTooLong offset entries =>
    s!"directory at offset {offset} declares {entries} entries"
  | valueTooLarge tag => s!"tag {tag.toNat} value size overflows"
  | offsetSize found => s!"Invalid BigTIFF offset size: {found.toNat}"
  | noDirectories => "TIFF has no directories"
  | tooManyDirectories => "Too many IFDs"
  | directoryLoop offset => s!"IFD chain loops back to offset {offset}"
  | keyTableNotShort => "GeoKeyDirectory is not SHORT-typed"
  | keyTableTooShort values => s!"GeoKeyDirectory too short: {values} values"
  | compoundAsSingle id =>
    s!"compound system {id.toNat} needs its components, use register_compound"
  | zeroId => "coordinate system id must be positive"
  | kindTaken id kind => s!"{id.toNat} is already registered as {kind.name}"
  | pairTaken id pair =>
    s!"compound {id.toNat} already combines {pair.horizontal.toNat} + {pair.vertical.toNat}"
  | notHorizontal id kind => s!"{id.toNat} is {kind.name}, not a horizontal system"
  | notVertical id kind => s!"{id.toNat} is {kind.name}, not a vertical system"
  | missingComponent id =>
    s!"compound {id.toNat} is missing its horizontal or vertical component"
  | catalogRow row => s!"catalog row {row}"
  | pointRow row => s!"CSV row {row}"

/-- The text of a configuration fault. -/
def ConfigFault.message : ConfigFault → String
  | unreadable => "invalid config"
  | badFlag name value => s!"{name} must be true or false, got {Text.quoted value}"
  | emptyCache => "grid_cache_size must be at least 1"
  | emptyBody => "body_limit must be positive"
  | emptyAddress => "bind_address is empty"
  | noGrids => "no grid shift files configured"

/-- The text of a gap. -/
def Gap.message : Gap → String
  | fieldType code => s!"field type {code.toNat}"
  | noSteps source target => s!"no transform steps from {source.name} to {target.name}"

namespace Error

/-- The text of a failure. -/
def message : Error → String
  | io fault => s!"I/O error: {fault.message}"
  | endOfData offset needed available =>
    s!"Unexpected end of data: needed {needed} bytes at offset {offset}, {available} available"
  | grid fault => s!"Malformed grid file: {fault.message}"
  | unknownSystem id => s!"Unknown coordinate system: {id.toNat}"
  | format fault => s!"Invalid format: {fault.message}"
  | byteOrder marker => s!"Invalid byte order: 0x{Text.hexUpper 4 marker.toNat}"
  | magic found => s!"Invalid TIFF magic number: {found.toNat}"
  | badOffset target => s!"Invalid offset: {target}"
  | missingTag tag => s!"Missing required tag: {tag.toNat}"
  | unsupported gap => s!"Unsupported: {gap.message}"
  | config fault => s!"Configuration error: {fault.message}"

/-- Whether the failure came from a source that ends too early. -/
def isEndOfData : Error → Bool
  | endOfData .. => true
  | io .truncated => true
  | _ => false

end Error

end Georef
