import Georef.Crs.Catalog
import Georef.GridFile.Cache
import Georef.Settings
import Georef.Shift.GridShift

/-!
# The state of a service

A service holds a registry of reference systems, the shift of its grid files, and what it does with
the end of text values. It is set up once, from settings.
-/

namespace Georef

/-- What a service needs to answer requests. -/
structure Service (α : Type) where
  registry : Crs.Registry
  /-- The shift of the grid files; none if there are none. -/
  shift : Option (GridShift α)
  terminator : Terminator

namespace Service

variable {α : Type} [Scalar α]

/-- The files at paths, each of them read through a cache. -/
def openGrids (files : Files) : GridCache α → List String → Except Error (List (GridFile α))
  | _, [] => .ok []
  | cache, path :: rest =>
    match cache.getOrOpen files path with
    | (.ok file, cache) => (openGrids files cache rest).map (file :: ·)
    | (.error fault, _) => .error fault

/-- The built-in registry with the catalog at a path. -/
def openRegistry (files : Files) : Option String → Except Error Crs.Registry
  | none => .ok .builtin
  | some path => do
    let bytes ← (files path).mapError .io
    return (← Crs.Registry.builtin.addCatalog bytes).1

/-- The service that settings describe. -/
def ofSettings (files : Files) (settings : Settings) : Except Error (Service α) := do
  let registry ← openRegistry files settings.catalog
  -- without grid files there is no shift, and requests for one are refused
  if settings.grids.isEmpty then
    return { registry, shift := none, terminator := settings.terminator }
  let grids ← openGrids files (.ofCapacity settings.cacheCapacity settings.mapped) settings.grids
  return { registry, shift := some { files := grids }, terminator := settings.terminator }

end Service

end Georef
