import Georef.Cache
import Georef.GridFile.File

/-!
# Caches of grid files

Grid files that were read are kept by their paths, which are compared by components. What a path
holds is looked up when it is read for the first time, or again after it was dropped.

* `GridCache`, `GridCache.getOrOpen`: the cache, and the file at a path.
* `GridCache.statistics`: the number of files and of what they hold.
-/

namespace Georef

/-- A cache of grid files. -/
structure GridCache (α : Type) where
  cache : Cache (List PathStep) (GridFile α)
  /-- Whether files are read as a whole. -/
  mapped : Bool

namespace GridCache

/-- What a cache holds. -/
structure Statistics where
  files : Nat
  subGrids : Nat
  nodes : Nat
  /-- The most files that are kept. -/
  capacity : Nat
  deriving DecidableEq, Repr

variable {α : Type}

/-- An empty cache; at least one file fits. -/
def ofCapacity (capacity : Nat) (mapped : Bool) : GridCache α :=
  { cache := .ofCapacity capacity, mapped }

/-- The most files that are kept unless something else is asked for. -/
def defaultCapacity : Nat := 8

/-- The number of files. -/
def size (grids : GridCache α) : Nat :=
  grids.cache.size

/-- The file of a path, if it is kept. -/
def get (grids : GridCache α) (path : String) : Option (GridFile α) × GridCache α :=
  let (file, cache) := grids.cache.get (PathName.components path)
  (file, { grids with cache })

/-- The file of a path, loaded if it is not kept. -/
def getOrLoad {ε : Type} (grids : GridCache α) (path : String)
    (load : Unit → Except ε (GridFile α)) : Except ε (Fetched (GridFile α)) × GridCache α :=
  let (fetched, cache) := grids.cache.getOrLoad (PathName.components path) load
  (fetched, { grids with cache })

/-- The file of a path, and the cache without it. -/
def remove (grids : GridCache α) (path : String) : Option (GridFile α) × GridCache α :=
  let (file, cache) := grids.cache.remove (PathName.components path)
  (file, { grids with cache })

/-- The cache without files. -/
def clear (grids : GridCache α) : GridCache α :=
  { grids with cache := grids.cache.clear }

/-- The sum of numbers. -/
def total (numbers : List Nat) : Nat :=
  numbers.foldl (· + ·) 0

/-- What the cache holds. -/
def statistics (grids : GridCache α) : Statistics where
  files := grids.size
  subGrids := total (grids.cache.values.map fun file => file.grids.size)
  nodes := total (grids.cache.values.map fun file =>
    total (file.grids.toList.map GridFile.SubGrid.nodeCount))
  capacity := grids.cache.capacity

variable [Scalar α]

/-- The file at a path, read if it is not kept. -/
def getOrOpen (grids : GridCache α) (files : Files) (path : String) :
    Except Error (GridFile α) × GridCache α :=
  let (fetched, grids) := grids.getOrLoad path fun _ =>
    GridFile.ofPath files (Access.ofFlag grids.mapped) path
  (fetched.map Fetched.value, grids)

end GridCache

end Georef
