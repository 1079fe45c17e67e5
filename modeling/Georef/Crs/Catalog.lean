import Georef.Crs.Registry
import Georef.Csv.Table

/-!
# Catalogs

A catalog is a table of systems with the columns `code`, `name`, `kind`, `horizontal` and
`vertical`; the last two give the parts of compound systems and are empty for others. Compound
systems are registered after all others, so they may stand before their parts.

A registry is extended by a whole catalog or not at all.

* `builtin`: the registry that every program starts with.
* `CatalogRow`, `Registry.addRows`: the rows of a catalog, and a registry extended by them.
* `Registry.addCatalog`: the same for the bytes of a table.
-/

namespace Georef.Crs

/-! ## The built-in catalog -/

/-- The systems known from the start. -/
def builtinSystems : List ReferenceSystem :=
  [⟨4326, "WGS 84", .geographic2D⟩,
    ⟨4269, "NAD83", .geographic2D⟩,
    ⟨4267, "NAD27", .geographic2D⟩,
    ⟨4258, "ETRS89", .geographic2D⟩,
    ⟨4283, "GDA94", .geographic2D⟩,
    ⟨7844, "GDA2020", .geographic2D⟩,
    ⟨4759, "NAD83(NSRS2007)", .geographic2D⟩,
    ⟨6318, "NAD83(2011)", .geographic2D⟩,
    ⟨4277, "OSGB36", .geographic2D⟩,
    ⟨4979, "WGS 84", .geographic3D⟩,
    ⟨4978, "WGS 84", .geocentric⟩,
    ⟨3857, "WGS 84 / Pseudo-Mercator", .projected⟩,
    ⟨26910, "NAD83 / UTM zone 10N", .projected⟩,
    ⟨27700, "OSGB36 / British National Grid", .projected⟩,
    ⟨5703, "NAVD88 height", .vertical⟩,
    ⟨5702, "NGVD29 height (ftUS)", .vertical⟩,
    ⟨5773, "EGM96 height", .vertical⟩,
    ⟨3855, "EGM2008 height", .vertical⟩,
    ⟨5714, "MSL height", .vertical⟩,
    ⟨5701, "ODN height", .vertical⟩]

/-- The compound systems known from the start. -/
def builtinCompounds : List (UInt32 × String × Pair) :=
  [(5498, "NAD83 + NAVD88 height", ⟨4269, 5703⟩),
    (5500, "NAD83(NSRS2007) + NAVD88 height", ⟨4759, 5703⟩),
    (6349, "NAD83(2011) + NAVD88 height", ⟨6318, 5703⟩),
    (7405, "OSGB36 / British National Grid + ODN height", ⟨27700, 5701⟩),
    (9518, "WGS 84 + EGM2008 height", ⟨4326, 3855⟩)]

namespace Registry

/-- The registry that holds the built-in catalog. -/
def builtin : Registry :=
  let singles := builtinSystems.foldl
    (fun registry system =>
      { registry with systems := registry.systems.put system.id system }) empty
  builtinCompounds.foldl (fun registry (id, name, pair) => registry.putCompound id name pair)
    singles

end Registry

/-! ## Rows -/

/-- A row of a catalog. -/
structure CatalogRow where
  code : UInt32
  name : String
  kind : Kind
  horizontal : Option UInt32
  vertical : Option UInt32
  deriving DecidableEq, Repr

namespace CatalogRow

/-- The columns of a catalog. -/
def columns : List String :=
  ["code", "name", "kind", "horizontal", "vertical"]

/-- The row that the values of the columns hold. -/
def ofFields? : List (Option String) → Option CatalogRow
  | [code, name, kind, horizontal, vertical] => do
    return {
      code := ← Csv.required? Csv.uint32? code
      name := ← name
      kind := ← Csv.required? Kind.ofCode? kind
      horizontal := ← Csv.optional? Csv.uint32? horizontal
      vertical := ← Csv.optional? Csv.uint32? vertical }
  | _ => none

/-- The rows of a table; none for a row that cannot be read. Without readable column names every
column has to be there. -/
def ofTable (table : Csv.Table) : List (Option CatalogRow) :=
  table.rows.map fun row => do
    let row ← row
    if table.header.isNone ∧ row.length < columns.length then none
    ofFields? (← table.pick columns row)

end CatalogRow

namespace Registry

/-- The registry with the systems of the rows that are not compound, and the compound rows, in
order. `row` is the number of the first row. -/
def addSingles : (row : Nat) → Registry → List (Option CatalogRow) →
    Except Error (Registry × List CatalogRow)
  | _, registry, [] => .ok (registry, [])
  | row, _, none :: _ => .error (.format (.catalogRow row))
  | row, registry, some entry :: rest => do
    if entry.kind = .compound then
      -- a compound row is put aside, since its parts may still follow
      let (registry, compounds) ← addSingles (row + 1) registry rest
      return (registry, entry :: compounds)
    let registry ← registry.register { id := entry.code, name := entry.name, kind := entry.kind }
    addSingles (row + 1) registry rest

/-- The registry with a compound system of a catalog. -/
def addCompound (registry : Registry) (entry : CatalogRow) : Except Error Registry :=
  match entry.horizontal, entry.vertical with
  | some horizontal, some vertical =>
    registry.registerCompound entry.code entry.name { horizontal, vertical }
  | _, _ => .error (.format (.missingComponent entry.code))

/-- The registry extended by rows, and their number. -/
def addRows (registry : Registry) (rows : List (Option CatalogRow)) :
    Except Error (Registry × Nat) := do
  let (registry, compounds) ← registry.addSingles 1 rows
  return (← compounds.foldlM addCompound registry, rows.length)

/-- The registry extended by a catalog, and the number of its rows. -/
def addCatalog (registry : Registry) (bytes : Bytes) : Except Error (Registry × Nat) :=
  registry.addRows (CatalogRow.ofTable (.ofBytes bytes))

end Registry

end Georef.Crs
