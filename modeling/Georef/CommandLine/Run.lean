import Georef.CommandLine.Help
import Georef.Crs.Catalog
import Georef.Shift.GridShift
import Georef.Tiff.File
import Georef.Tiff.Georeference

/-!
# Runs

A run prints lines, and ends well or with a failure that is reported apart from them. What was
printed before a failure stays.

* `Output`, `run`: what a run leaves, and the run of arguments.
-/

namespace Georef.CommandLine

/-- What a run leaves. -/
structure Output where
  status : Nat
  printed : String := ""
  reported : String := ""
  deriving DecidableEq, Repr

/-- A reason for a run to fail. -/
inductive Failure where
  | failed (error : Error)
  /-- No sub-grid of the file at a path contains the point. -/
  | outside (lon lat : Float) (path : String)

/-- The text of a number. -/
def shown (x : Float) : String :=
  (Binary64.ofFloat x).display

/-- The report of a failure; below a failure of a file stands its cause. -/
def Failure.report : Failure → String
  | failed (.io fault) =>
    s!"Error: {(Error.io fault).message}\n\nCaused by:\n    {fault.message}\n"
  | failed error => s!"Error: {error.message}\n"
  | outside lon lat path =>
    s!"Error: ({shown lon}, {shown lat}) is outside every sub-grid of {path}\n"

/-! ## Tasks -/

/-- The lines of a run up to its end or its failure. -/
structure Lines where
  printed : List String
  failure : Option Failure := none

/-- The lines of an outcome. -/
def Lines.ofOutcome (outcome : Except Error (List String)) : Lines :=
  match outcome with
  | .ok printed => { printed }
  | .error error => { printed := [], failure := some (.failed error) }

/-- What lies around an image on the ground, as far as its directory tells. -/
def placeLines (registry : Crs.Registry) (directory : Tiff.Directory)
    (reference : Tiff.Georeference Float) : List String :=
  let box := (directory.dimensions?.bind reference.boundingBox?).toList.flatMap fun extent =>
    ["  Bounding Box:", s!"    Min: ({shown extent.west}, {shown extent.south})",
      s!"    Max: ({shown extent.east}, {shown extent.north})"]
  let system :=
    match reference.resolve registry with
    | .ok system => s!"  CRS: EPSG:{system.id.toNat} {system.name}"
    | .error error => s!"  CRS: unresolved ({error.message})"
  reference.describe :: box ++ [system]

/-- Describes the directories of a file. -/
def infoLines (registry : Crs.Registry) (resource : Resource) (trimNul : Bool) : Lines :=
  let policy := if trimNul then Terminator.trimNul else Terminator.preserve
  match (Tiff.OpenTiff.ofResource policy resource).bind fun file =>
      (file.run Tiff.Header.chain).1 with
  | .error error => { printed := [], failure := some (.failed error) }
  | .ok tiff =>
    match tiff.main? with
    | none => { printed := [tiff.describe] }
    | some directory =>
      match Tiff.Georeference.ofDirectory? directory with
      | .error error => { printed := [tiff.describe], failure := some (.failed error) }
      | .ok none => { printed := [tiff.describe] }
      | .ok (some reference) =>
        { printed := tiff.describe :: placeLines registry directory reference }

/-- Describes a sub-grid. -/
def subGridLines (grid : GridFile.SubGrid Float) : List String :=
  ["", s!"  {grid.name} (parent {grid.parent.getD GridFile.noParent}): " ++
      s!"{grid.rows} x {grid.cols} nodes",
    s!"    Lat: {shown grid.south} .. {shown grid.north} step {shown grid.latStep}",
    s!"    Lon (positive west): {shown grid.east} .. {shown grid.west} " ++
      s!"step {shown grid.lonStep}"] ++
  (if grid.children.isEmpty then [] else [s!"    Children: {grid.children.length}"])

/-- Describes a grid file. -/
def gridLines (file : GridFile Float) : List String :=
  let header := file.overview
  ["NTv2 File Information:", s!"  Name: {file.name}", s!"  Byte order: {file.order.label}",
    s!"  Version: {header.version}", s!"  Units: {header.unitName}",
    s!"  From: {header.source} " ++
      s!"(a={header.sourceMajor.display}, b={header.sourceMinor.display})",
    s!"  To: {header.target} " ++
      s!"(a={header.targetMajor.display}, b={header.targetMinor.display})",
    s!"  Sub-grids: {file.grids.size}"] ++ file.grids.toList.flatMap subGridLines

/-- Shifts a point through a grid file. -/
def shiftLines (grids : Except Error (GridFile Float)) (path : String) (inverse : Bool)
    (lon lat : Float) : Lines :=
  match grids with
  | .error error => { printed := [], failure := some (.failed error) }
  | .ok file =>
    let shift : GridShift Float :=
      { files := [file], direction := if inverse then .inverse else .forward }
    match shift.shifted? { x := lon, y := lat } with
    | none => { printed := [], failure := some (.outside lon lat path) }
    | some reached =>
      let places (x : Float) := Decimal.fixedPlaces 9 (.ofFloat x)
      { printed := [s!"{places reached.x} {places reached.y}"] }

/-- Describes the compound system of two systems. -/
def compoundLines (registry : Crs.Registry) (pair : Crs.Pair) : Except Error (List String) := do
  let system ← registry.getCompound pair
  return system.describe ::
    (if system.registered then []
      else [s!"  (synthesized id 0x{Text.hexUpper 8 system.id.toNat})"])

/-- The lines of an invocation. -/
def Invocation.lines (files : Files) (invocation : Invocation) : Lines :=
  let registry : Except Error Crs.Registry :=
    match invocation.catalog with
    | none => .ok .builtin
    | some path => do
      return (← Crs.Registry.builtin.addCatalog (← (files path).mapError .io)).1
  match registry with
  | .error error => { printed := [], failure := some (.failed error) }
  | .ok registry =>
    let access := Access.ofFlag invocation.mapped
    match invocation.task with
    | .info path trimNul => infoLines registry (.ofPath files access path) trimNul
    | .grid path => .ofOutcome ((GridFile.ofPath files access path).map gridLines)
    | .shift path inverse lon lat =>
      shiftLines (GridFile.ofPath files access path) path inverse lon lat
    | .compound horizontal vertical =>
      .ofOutcome (compoundLines registry { horizontal, vertical })

/-! ## Runs -/

/-- What the lines of a run leave. -/
def Lines.output (lines : Lines) : Output where
  status := if lines.failure.isSome then 1 else 0
  printed := ofLines lines.printed
  reported := (lines.failure.map Failure.report).getD ""

/-- What a stop leaves. -/
def Stop.output : Stop → Output
  | help command => { status := 0, printed := CommandLine.help command }
  | helpOfHelp => { status := 0, printed := CommandLine.helpOfHelp }
  | version => { status := 0, printed := s!"{programName} {programVersion}\n" }
  | refused => { status := 2, reported := usage none ++ "\n" }

/-- The run of arguments. -/
def run (files : Files) (arguments : List String) : Output :=
  match Invocation.ofArguments arguments with
  | .ok invocation => (invocation.lines files).output
  | .error stop => stop.output

end Georef.CommandLine
