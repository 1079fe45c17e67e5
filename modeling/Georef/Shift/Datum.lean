/-!
# Geodetic datums

The datums that grid files name in their headers, and those of the built-in geographic systems.
-/

namespace Georef

/-- A geodetic datum. -/
inductive Datum where
  | wgs84
  | nad83
  | nad27
  | etrs89
  | gda94
  | gda2020
  | osgb36
  /-- Any datum that is not known by name. -/
  | custom
  deriving DecidableEq, Repr, Inhabited

namespace Datum

/-- The name of a datum. -/
def name : Datum → String
  | wgs84 => "WGS84"
  | nad83 => "NAD83"
  | nad27 => "NAD27"
  | etrs89 => "ETRS89"
  | gda94 => "GDA94"
  | gda2020 => "GDA2020"
  | osgb36 => "OSGB36"
  | custom => "Custom"

/-- The datums that are known by name. -/
def known : List Datum :=
  [wgs84, nad83, nad27, etrs89, gda94, gda2020, osgb36]

/-- The datum of a name; only its letters and digits count, and their case does not. -/
def ofName (text : String) : Datum :=
  let letters := String.ofList ((text.toList.filter Char.isAlphanum).map Char.toUpper)
  (known.find? fun datum => datum.name == letters).getD custom

/-- The datum of a built-in geographic system. -/
def ofSystem? (id : UInt32) : Option Datum :=
  if id = 4326 ∨ id = 4979 ∨ id = 4978 then some wgs84
  else if id = 4269 then some nad83
  else if id = 4267 then some nad27
  else if id = 4258 then some etrs89
  else if id = 4283 then some gda94
  else if id = 7844 then some gda2020
  else if id = 4277 then some osgb36
  else none

end Datum

end Georef
