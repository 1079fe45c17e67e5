import Georef.Error
import Georef.Json.Document
import Georef.Json.Reading
import Georef.PathName
import Georef.Source.Resource
import Georef.Text.Blank

/-!
# Settings

The settings of a service come from a JSON document and from variables of the environment, which
take precedence. A setting that is not given keeps its default.

* `Settings`, `Settings.ofText`, `Settings.ofFile`: settings, and those of a document.
* `Settings.override`: settings with the variables of the environment.
* `Settings.validate`: whether a service can run with the settings.
-/

namespace Georef

/-- The settings of a service. -/
structure Settings where
  /-- The paths of the grid files, in the order in which they are searched. -/
  grids : List String := []
  /-- The path of a catalog of reference systems. -/
  catalog : Option String := none
  /-- Whether files are read as a whole. -/
  mapped : Bool := true
  /-- The most grid files that are kept. -/
  cacheCapacity : Nat := 8
  /-- What to do with the end of text values. -/
  terminator : Terminator := .preserve
  address : String := "0.0.0.0:3000"
  /-- The most bytes of a request. -/
  bodyLimit : Nat := 104857600
  deriving DecidableEq, Repr

namespace Settings

/-! ## Documents -/

/-- The names of the settings in a document, in the order in which a list gives their values. -/
def fieldNames : List String :=
  ["grids", "catalog_path", "use_mmap", "grid_cache_size", "ascii_terminator", "bind_address",
    "body_limit"]

/-- The bound of whole numbers. -/
def numberBound : Nat := 0x10000000000000000

/-- The settings with one of them given by name. Other names mean nothing. -/
def withField? (settings : Settings) (name : String) (value : Json.Tree) : Option Settings :=
  match name with
  | "grids" => value.texts?.map fun grids => { settings with grids }
  | "catalog_path" => value.optionalText?.map fun catalog => { settings with catalog }
  | "use_mmap" => value.flag?.map fun mapped => { settings with mapped }
  | "grid_cache_size" =>
    (value.natural? numberBound).map fun cacheCapacity => { settings with cacheCapacity }
  | "ascii_terminator" =>
    (value.choice?.bind Terminator.ofName?).map fun terminator => { settings with terminator }
  | "bind_address" => value.text?.map fun address => { settings with address }
  | "body_limit" =>
    (value.natural? numberBound).map fun bodyLimit => { settings with bodyLimit }
  | _ => some settings

/-- The settings with those of named values. -/
def withFields? (settings : Settings) (fields : List (String × Json.Tree)) : Option Settings :=
  fields.foldlM (fun settings field => settings.withField? field.1 field.2) settings

/-- The settings of a tree: an object of named values, none of them given twice, or a list of the
values in order. -/
def ofTree? : Json.Tree → Option Settings
  | .object fields => do
    let fields ← fields.mapM fun (name, value) => name.map fun name => (name, value)
    -- names that mean nothing may be repeated
    let known := (fields.map Prod.fst).filter fieldNames.contains
    if known.eraseDups.length = known.length then withFields? {} fields else none
  | .list values =>
    if values.length ≤ fieldNames.length then withFields? {} (fieldNames.zip values) else none
  | _ => none

/-- The settings of a document. -/
def ofText (text : String) : Except Error Settings :=
  match (Json.Tree.ofText? text).bind ofTree? with
  | some settings => .ok settings
  | none => .error (.config .unreadable)

/-- The settings of a file. -/
def ofFile (files : Files) (path : String) : Except Error Settings := do
  let bytes ← (files path).mapError .io
  match Text.ofUtf8? bytes with
  | some text => ofText text
  | none => throw (.io .notText)

/-! ## Checks -/

/-- Refuses settings with which no service can run. -/
def validate (settings : Settings) : Except Error Unit :=
  if settings.cacheCapacity = 0 then .error (.config .emptyCache)
  else if settings.bodyLimit = 0 then .error (.config .emptyBody)
  else if settings.address.isEmpty then .error (.config .emptyAddress)
  else .ok ()

/-! ## The environment -/

/-- The flag that a variable holds. -/
def flagOf? (value : String) : Option Bool :=
  let word := String.ofList ((Text.trim value).toList.map Char.toLower)
  if ["1", "true", "yes", "on"].contains word then some true
  else if ["0", "false", "no", "off"].contains word then some false
  else none

/-- The paths of a list that is separated by colons; empty ones do not count. -/
def pathsOf (value : String) : List String :=
  ((splitOn ':' value.toList).filter fun piece => !piece.isEmpty).map String.ofList

/-- The settings with the variables of the environment, if a service can run with them. -/
def override (settings : Settings) (environment : String → Option String) :
    Except Error Settings := do
  let settings :=
    match environment "SKYFOREST_BIND" with
    | some address => { settings with address }
    | none => settings
  let settings :=
    match environment "SKYFOREST_GRIDS" with
    | some paths => { settings with grids := pathsOf paths }
    | none => settings
  let settings :=
    match environment "SKYFOREST_CATALOG" with
    | some path => { settings with catalog := if path.isEmpty then none else some path }
    | none => settings
  let settings ←
    match environment "SKYFOREST_USE_MMAP" with
    | some value =>
      match flagOf? value with
      | some mapped => pure { settings with mapped }
      | none => throw (.config (.badFlag "SKYFOREST_USE_MMAP" value))
    | none => pure settings
  -- what the variables left as it was is checked as well
  settings.validate
  return settings

/-- The settings of the file at a path, or else the defaults, with the variables of the
environment. -/
def load (files : Files) (path : Option String) (environment : String → Option String) :
    Except Error Settings := do
  let settings ←
    match path with
    | some path => ofFile files path
    | none => pure {}
  settings.override environment

instance : Json.ToDocument Settings where
  document settings := .object [
    ("grids", Json.document settings.grids),
    ("catalog_path", Json.document settings.catalog),
    ("use_mmap", .bool settings.mapped),
    ("grid_cache_size", Json.document settings.cacheCapacity),
    ("ascii_terminator", .text settings.terminator.name),
    ("bind_address", .text settings.address),
    ("body_limit", Json.document settings.bodyLimit)]

end Settings

end Georef
