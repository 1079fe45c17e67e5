import Georef.Json.Document

/-!
# Coordinate reference systems

A system is known by a numeric code and has a name and a kind. A compound system pairs a horizontal
one with a vertical one.
-/

namespace Georef.Crs

/-- The kind of a coordinate reference system. -/
inductive Kind where
  | geographic2D
  | geographic3D
  | geocentric
  | projected
  | vertical
  | engineering
  | compound
  deriving DecidableEq, Repr, Inhabited

namespace Kind

/-- The kind in words. -/
def name : Kind → String
  | geographic2D => "geographic 2D"
  | geographic3D => "geographic 3D"
  | geocentric => "geocentric"
  | projected => "projected"
  | vertical => "vertical"
  | engineering => "engineering"
  | compound => "compound"

/-- The kind as it is written in catalogs and answers. -/
def code : Kind → String
  | geographic2D => "geographic_2d"
  | geographic3D => "geographic_3d"
  | geocentric => "geocentric"
  | projected => "projected"
  | vertical => "vertical"
  | engineering => "engineering"
  | compound => "compound"

/-- Every kind. -/
def all : List Kind :=
  [geographic2D, geographic3D, geocentric, projected, vertical, engineering, compound]

/-- The kind with a given code. -/
def ofCode? (code : String) : Option Kind :=
  all.find? fun kind => kind.code == code

/-- Whether a system of this kind can be the horizontal part of a compound. -/
def isHorizontal : Kind → Bool
  | geographic2D | projected | engineering => true
  | _ => false

/-- Whether a system of this kind can be the vertical part of a compound. -/
def isVertical : Kind → Bool
  | vertical => true
  | _ => false

end Kind

/-- A coordinate reference system. -/
structure ReferenceSystem where
  /-- The numeric code; codes in use are positive. -/
  id : UInt32
  name : String
  kind : Kind
  deriving DecidableEq, Repr, Inhabited

/-- The horizontal and the vertical code of a compound system. -/
structure Pair where
  horizontal : UInt32
  vertical : UInt32
  deriving DecidableEq, Repr, Inhabited

/-- A compound system with its two parts. -/
structure Compound where
  id : UInt32
  name : String
  horizontal : ReferenceSystem
  vertical : ReferenceSystem
  /-- Whether the code was registered; otherwise it was made from the codes of the parts. -/
  registered : Bool
  deriving DecidableEq, Repr

/-- What a code stands for. -/
inductive Resolved where
  | single (system : ReferenceSystem)
  | compound (system : Compound)
  deriving DecidableEq, Repr

/-- A system in one line. -/
def ReferenceSystem.describe (system : ReferenceSystem) : String :=
  s!"EPSG:{system.id.toNat} {system.name} ({system.kind.name})"

/-- A compound system in one line. -/
def Compound.describe (system : Compound) : String :=
  let origin := if system.registered then "registered" else "synthesized"
  s!"{system.id.toNat} {system.name} [{system.horizontal.id.toNat} + " ++
    s!"{system.vertical.id.toNat}, {origin}]"

namespace Resolved

def id : Resolved → UInt32
  | single system => system.id
  | compound system => system.id

def name : Resolved → String
  | single system => system.name
  | compound system => system.name

/-- The system in one line. -/
def describe : Resolved → String
  | single system => system.describe
  | compound system => system.describe

end Resolved

/-! ## Documents -/

/-- The fields of a system. -/
def ReferenceSystem.fields (system : ReferenceSystem) : List (String × Json.Document) :=
  [("id", Json.document system.id), ("name", .text system.name),
    ("kind", .text system.kind.code)]

instance : Json.ToDocument ReferenceSystem := ⟨fun system => .object system.fields⟩

/-- The fields of a compound system. -/
def Compound.fields (system : Compound) : List (String × Json.Document) :=
  [("id", Json.document system.id), ("name", .text system.name),
    ("horizontal", Json.document system.horizontal),
    ("vertical", Json.document system.vertical),
    ("registered", .bool system.registered)]

instance : Json.ToDocument Compound := ⟨fun system => .object system.fields⟩

instance : Json.ToDocument Resolved where
  document
    | .single system => .object (("type", .text "single") :: system.fields)
    | .compound system => .object (("type", .text "compound") :: system.fields)

end Georef.Crs
