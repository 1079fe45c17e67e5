import Georef.Csv.Table
import Georef.Csv.Writing
import Georef.Shift.GridShift

/-!
# Batches of points

A table of points is shifted row by row. Each row of the result repeats the point with its name and
adds where it was shifted to; a point that the grids do not reach stays where it is. A summary of
the rows stands in front of them.

* `NamedPoint`, `NamedPoint.ofBytes`: the points of a table.
* `Batch`, `Batch.ofPoints`: points with their shifts.
* `Batch.text`: the summary and the table of the rows.
-/

namespace Georef

/-- A geographic point of a table. -/
structure NamedPoint (α : Type) where
  point : Point α
  name : Option String
  deriving DecidableEq, Repr

namespace NamedPoint

variable {α : Type} [Scalar α]

/-- The columns of a table of points. -/
def columns : List String :=
  ["latitude", "longitude", "name"]

/-- A coordinate. -/
def coordinate? (text : String) : Option α :=
  (Decimal.readDouble? text).map fun x => Scalar.ofDouble (.ofFloat x)

/-- The point that the values of the columns hold. -/
def ofFields? : List (Option String) → Option (NamedPoint α)
  | [latitude, longitude, name] => do
    return {
      point := { y := ← Csv.required? coordinate? latitude
                 x := ← Csv.required? coordinate? longitude }
      name := ← Csv.optional? some name }
  | _ => none

/-- The points of rows; `row` is the number of the first one. -/
def ofRows (table : Csv.Table) : (row : Nat) → List (Option (List String)) →
    Except Error (List (NamedPoint α))
  | _, [] => .ok []
  | row, fields :: rest =>
    match (fields.bind (table.pick columns)).bind ofFields? with
    | none => .error (.format (.pointRow row))
    | some point => (ofRows table (row + 1) rest).map (point :: ·)

/-- The points of a table; the first row that cannot be read refuses all of it. -/
def ofBytes (bytes : Bytes) : Except Error (List (NamedPoint α)) :=
  let table := Csv.Table.ofBytes bytes
  ofRows table 1 table.rows

end NamedPoint

/-- A point with the outcome of a shift. -/
structure BatchRow (α : Type) where
  source : NamedPoint α
  reached : Point α
  covered : Bool
  deriving DecidableEq, Repr

namespace BatchRow

variable {α : Type} [Scalar α]

/-- The columns of a table of shifted points. -/
def columns : List String :=
  ["latitude", "longitude", "name", "shifted_latitude", "shifted_longitude", "status"]

/-- The word for the outcome of a shift. -/
def status (row : BatchRow α) : String :=
  if row.covered then "SHIFTED" else "OUTSIDE_GRID"

/-- A coordinate as it is written. -/
def coordinateText (x : α) : String :=
  Decimal.Layout.table.write (Scalar.toDouble x)

/-- The values of the columns. -/
def fields (row : BatchRow α) : List String :=
  [coordinateText row.source.point.y, coordinateText row.source.point.x, row.source.name.getD "",
    coordinateText row.reached.y, coordinateText row.reached.x, row.status]

end BatchRow

/-- Points with the outcomes of a shift. -/
structure Batch (α : Type) where
  rows : List (BatchRow α)
  deriving DecidableEq, Repr

namespace Batch

variable {α : Type} [Scalar α]

/-- Points shifted one by one. -/
def ofPoints (shift : GridShift α) (points : List (NamedPoint α)) : Batch α where
  rows := points.zipWith (fun source (reached, covered) => { source, reached, covered })
    (shift.applyEach (points.map NamedPoint.point))

/-- The points of a table shifted one by one. -/
def ofBytes (shift : GridShift α) (bytes : Bytes) : Except Error (Batch α) :=
  (NamedPoint.ofBytes bytes).map (ofPoints shift)

/-- The number of points. -/
def total (batch : Batch α) : Nat :=
  batch.rows.length

/-- The number of points that were shifted. -/
def shifted (batch : Batch α) : Nat :=
  batch.rows.countP BatchRow.covered

/-- The lines of the summary. -/
def summary (batch : Batch α) : List String :=
  ["# Statistics", s!"# Total points: {batch.total}", s!"# Shifted: {batch.shifted}",
    s!"# Outside grid: {batch.total - batch.shifted}"]

/-- The rows as a table; without rows there is no header either. -/
def table (batch : Batch α) : String :=
  match batch.rows with
  | [] => ""
  | rows => String.join ((BatchRow.columns :: rows.map BatchRow.fields).map Csv.writeRecord)

/-- The summary and the table. -/
def text (batch : Batch α) : String :=
  String.join (batch.summary.map (· ++ "\n")) ++ batch.table

end Batch

end Georef
