import Georef.Scalar

/-!
# JSON documents

The shape in which results are handed out and configurations come in. Whole numbers and doubles
are kept apart; the fields of an object keep their order, and a name may occur more than once in a
document that was read.
-/

namespace Georef.Json

/-- A JSON document. -/
inductive Document where
  | null
  | bool (value : Bool)
  | integer (value : Int)
  | double (value : Binary64)
  | text (value : String)
  | list (values : List Document)
  | object (fields : List (String × Document))

/-- Values that are handed out as documents. -/
class ToDocument (α : Type) where
  document : α → Document

export ToDocument (document)

instance : ToDocument Document := ⟨id⟩

instance : ToDocument Bool := ⟨.bool⟩

instance : ToDocument String := ⟨.text⟩

instance : ToDocument Nat := ⟨fun n => .integer n⟩

instance : ToDocument Int := ⟨.integer⟩

instance : ToDocument UInt8 := ⟨fun n => .integer n.toNat⟩

instance : ToDocument UInt16 := ⟨fun n => .integer n.toNat⟩

instance : ToDocument UInt32 := ⟨fun n => .integer n.toNat⟩

instance : ToDocument UInt64 := ⟨fun n => .integer n.toNat⟩

instance : ToDocument Int8 := ⟨fun n => .integer n.toInt⟩

instance : ToDocument Int16 := ⟨fun n => .integer n.toInt⟩

instance : ToDocument Int32 := ⟨fun n => .integer n.toInt⟩

instance : ToDocument Int64 := ⟨fun n => .integer n.toInt⟩

instance : ToDocument Binary64 := ⟨.double⟩

instance : ToDocument Binary32 := ⟨fun x => .double (.ofFloat x.toFloat)⟩

instance {α : Type} [ToDocument α] : ToDocument (List α) := ⟨fun xs => .list (xs.map document)⟩

instance {α : Type} [ToDocument α] : ToDocument (Option α) :=
  ⟨fun x => (x.map document).getD .null⟩

/-- The terms of a fraction by name. -/
instance {ι : Type} [ToDocument ι] : ToDocument (Fraction ι) :=
  ⟨fun x => .object [
    ("numerator", document x.numerator),
    ("denominator", document x.denominator)]⟩

/-- A number to compute with is handed out as a double. -/
def ofScalar {α : Type} [Scalar α] (x : α) : Document :=
  .double (Scalar.toDouble x)

end Georef.Json
