import Georef.GridFile.File
import Georef.Proofs.Source.Settling

/-!
# Reading grid files settles

Headers, sub-grids and whole files are read by actions that depend on the bytes of the source and on
the place where they start, and on nothing else of a cursor. So a file is read or refused alike from
every cursor over the same bytes. Headers and nodes take a fixed number of bytes each, so that what
has been read tells where the next part begins.

The module introduces:

* `recordLength` — the length of a record.
* `Overview.spans_read`, `SubGridHeader.spans_read`, `spans_readNode` — the lengths of headers and
  nodes.
* `settles_readSubGrids`, `settles_read` — sub-grids and files.
-/

namespace Georef.GridFile

open Cursor (Settles Spans)

variable {ρ : Type} [Reader ρ] [LawfulReader ρ] {data : Bytes}

/-! ## Records -/

/-- The length of a record. -/
def recordLength : Nat := fieldLength + fieldLength

theorem spans_readName : Spans (ρ := ρ) data fieldLength readName :=
  .text fieldLength .latin1 .trimPadding

theorem spans_expectLabel (label : String) :
    Spans (ρ := ρ) data fieldLength (expectLabel label) := by
  refine .of_eq (.bind .here fun offset => .bind spans_readName fun found => ?_)
    (show 0 + (fieldLength + 0) = fieldLength from rfl)
  split
  · exact .throw _
  · exact .pure _

theorem spans_readText (label : String) : Spans (ρ := ρ) data recordLength (readText label) :=
  .bind (spans_expectLabel label) fun _ => spans_readName

theorem spans_readDouble (label : String) : Spans (ρ := ρ) data recordLength (readDouble label) :=
  .bind (spans_expectLabel label) fun _ => .next Binary64

theorem spans_readInteger (label : String) : Spans (ρ := ρ) data recordLength (readInteger label) :=
  .bind (spans_expectLabel label) fun _ => .bind (.next Int32) fun _ => .bind (.skip 4) fun _ =>
    .pure _

/-! ## Headers -/

theorem Overview.spans_readHeaderLength (label : String) :
    Spans (ρ := ρ) data recordLength (readHeaderLength label) := by
  refine .of_eq (.bind (spans_readInteger label) fun found => ?_) (Nat.add_zero _)
  split
  · exact .throw _
  · exact .pure _

theorem Overview.spans_read :
    Spans (ρ := ρ) data (headerRecords * recordLength) Overview.read := by
  -- three records before a failure is possible, and eight behind it
  refine .of_eq (.bind (spans_readHeaderLength _) fun _ => .bind (spans_readHeaderLength _) fun _ =>
    .bind (spans_readInteger _) fun fileCount => ?_)
    (show _ + (_ + (_ + 8 * recordLength)) = _ from rfl)
  split
  · exact .throw_bind _ _
  exact .of_eq (.bind (spans_readText _) fun _ => .bind (.ofExcept _) fun _ =>
    .bind (spans_readText _) fun _ => .bind (spans_readText _) fun _ =>
    .bind (spans_readText _) fun _ => .bind (spans_readDouble _) fun _ =>
    .bind (spans_readDouble _) fun _ => .bind (spans_readDouble _) fun _ =>
    .bind (spans_readDouble _) fun _ => .pure _) rfl

theorem SubGridHeader.spans_read :
    Spans (ρ := ρ) data (fieldLength + 10 * recordLength) SubGridHeader.read :=
  .of_eq (.bind spans_readName fun _ => .bind (spans_readText _) fun _ =>
    .bind (spans_readText _) fun _ => .bind (spans_readText _) fun _ =>
    .bind (spans_readDouble _) fun _ => .bind (spans_readDouble _) fun _ =>
    .bind (spans_readDouble _) fun _ => .bind (spans_readDouble _) fun _ =>
    .bind (spans_readDouble _) fun _ => .bind (spans_readDouble _) fun _ =>
    .bind (spans_readInteger _) fun _ => .pure _) rfl

/-! ## Sub-grids -/

section Grids

variable (α : Type) [Scalar α]

theorem spans_readNode (scale : α) : Spans (ρ := ρ) data nodeLength (readNode α scale) := by
  have hshift : Spans (ρ := ρ) data 4 (readShift α scale) :=
    .bind (.next Binary32) fun _ => .pure _
  exact .bind hshift fun _ => .bind hshift fun _ => .bind hshift fun _ => .bind hshift fun _ =>
    .pure _

theorem settles_readSubGrid (units : Units) : Settles (ρ := ρ) data (readSubGrid α units) := by
  refine .bind SubGridHeader.spans_read.settles fun header =>
    .bind (.ofExcept _) fun ⟨rows, cols⟩ => .bind (.operation .here) fun place => ?_
  refine .bind (Spans.ensureRange _ _).settles fun _ => ?_
  exact .bind ((spans_readNode α _).repeatOnto _ _).settles fun _ => .pure _

theorem settles_readSubGrids (units : Units) (fuel : Nat) (done : List (SubGrid α)) :
    Settles (ρ := ρ) data (readSubGrids α units fuel done) := by
  induction fuel generalizing done with
  | zero => exact .pure _
  | succ fuel ih =>
    refine .bind (.operation .here) fun offset => .bind spans_readName.settles fun label => ?_
    split
    · exact .pure _
    split
    · exact .throw_bind _ _
    · exact .bind (settles_readSubGrid α units) fun grid => ih (grid :: done)

/-! ## Files -/

/-- The byte order is found without moving. -/
theorem spans_detectOrder : Spans (ρ := ρ) data 0 detectOrder := by
  refine .of_eq (.bind .here fun start => .bind (.atOffset (.bytes 4) _) fun stored => ?_)
    (show 0 + (0 + 0) = 0 from rfl)
  split
  · exact .pure _
  · exact .throw _

/-- A file is read or refused alike from every cursor at one place. -/
theorem settles_read (name : String) : Settles (ρ := ρ) data (read (α := α) name) := by
  refine .bind spans_detectOrder.settles fun order => .bind (.operation (.setOrder order)) fun _ =>
    .bind Overview.spans_read.settles fun overview => ?_
  -- the length of the source bounds the number of sub-grids
  refine .get_bind (fun _ _ _ h h' => by simp only [h.length_eq, h'.length_eq]) fun cursor => ?_
  exact .bind (settles_readSubGrids α overview.units _ _) fun _ => .bind (.ofExcept _) fun _ =>
    .pure _

end Grids

end Georef.GridFile
