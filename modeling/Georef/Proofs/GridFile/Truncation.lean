import Georef.Proofs.GridFile.Ancestry
import Georef.Proofs.Source.CutShort

/-!
# Grid files that are cut short

A grid file ends with a label, so that a file of which the end is missing can be told from a whole
one. Wherever it is cut, the readers of records, labels, nodes and sub-grids come to the cut before
they find another reason to refuse it, and say that the data ends. Only the byte order, which is
looked for behind the first label, is sought at an offset that does not exist if the file is cut
inside of that label; this is refused as a bad offset.

The module introduces:

* `TellsEnd` and `CutShort` for the readers of grid files, `cutShort_read` for all of them together.
* `ReadToEnd resource data file` — a file is found in the bytes of a resource, and the label that
  ends it is the last thing there.

`ofResource_truncated` says how every proper prefix of such bytes is refused.
-/

namespace Georef.GridFile

open Cursor (CutShort Place Runs Spans TellsEnd)

variable {ρ : Type} [Reader ρ] [LawfulReader ρ] {data : Bytes} {cut : Nat}

/-! ## Records and headers -/

section Records

variable (hcut : cut ≤ data.size)

include hcut

theorem tellsEnd_readName : TellsEnd (ρ := ρ) data cut readName :=
  .text hcut fieldLength .latin1 .trimPadding

theorem tellsEnd_expectLabel (label : String) :
    TellsEnd (ρ := ρ) data cut (expectLabel label) := by
  refine .bind .here fun offset => .bind (tellsEnd_readName hcut) fun found => ?_
  split
  · exact .throw _
  · exact .pure _

theorem tellsEnd_readText (label : String) : TellsEnd (ρ := ρ) data cut (readText label) :=
  .bind (tellsEnd_expectLabel hcut label) fun _ => tellsEnd_readName hcut

theorem tellsEnd_readDouble (label : String) : TellsEnd (ρ := ρ) data cut (readDouble label) :=
  .bind (tellsEnd_expectLabel hcut label) fun _ => .next hcut Binary64

theorem tellsEnd_readInteger (label : String) : TellsEnd (ρ := ρ) data cut (readInteger label) :=
  .bind (tellsEnd_expectLabel hcut label) fun _ => .bind (.next hcut Int32) fun _ =>
    .bind (.skip hcut 4) fun _ => .pure _

theorem Overview.tellsEnd_readHeaderLength (label : String) :
    TellsEnd (ρ := ρ) data cut (readHeaderLength label) := by
  refine .bind (tellsEnd_readInteger hcut label) fun found => ?_
  split
  · exact .throw _
  · exact .pure _

theorem Overview.tellsEnd_read : TellsEnd (ρ := ρ) data cut Overview.read := by
  refine .bind (tellsEnd_readHeaderLength hcut _) fun _ =>
    .bind (tellsEnd_readHeaderLength hcut _) fun _ =>
    .bind (tellsEnd_readInteger hcut _) fun fileCount => ?_
  split
  · exact .throw_bind _ _
  exact .bind (tellsEnd_readText hcut _) fun _ => .bind (.ofExcept _) fun _ =>
    .bind (tellsEnd_readText hcut _) fun _ => .bind (tellsEnd_readText hcut _) fun _ =>
    .bind (tellsEnd_readText hcut _) fun _ => .bind (tellsEnd_readDouble hcut _) fun _ =>
    .bind (tellsEnd_readDouble hcut _) fun _ => .bind (tellsEnd_readDouble hcut _) fun _ =>
    .bind (tellsEnd_readDouble hcut _) fun _ => .pure _

theorem SubGridHeader.tellsEnd_read : TellsEnd (ρ := ρ) data cut SubGridHeader.read :=
  .bind (tellsEnd_readName hcut) fun _ => .bind (tellsEnd_readText hcut _) fun _ =>
    .bind (tellsEnd_readText hcut _) fun _ => .bind (tellsEnd_readText hcut _) fun _ =>
    .bind (tellsEnd_readDouble hcut _) fun _ => .bind (tellsEnd_readDouble hcut _) fun _ =>
    .bind (tellsEnd_readDouble hcut _) fun _ => .bind (tellsEnd_readDouble hcut _) fun _ =>
    .bind (tellsEnd_readDouble hcut _) fun _ => .bind (tellsEnd_readDouble hcut _) fun _ =>
    .bind (tellsEnd_readInteger hcut _) fun _ => .pure _

end Records

/-! ## Sub-grids -/

section Grids

variable (α : Type) [Scalar α]

theorem tellsEnd_readNode (hcut : cut ≤ data.size) (scale : α) :
    TellsEnd (ρ := ρ) data cut (readNode α scale) := by
  have hshift : TellsEnd (ρ := ρ) data cut (readShift α scale) :=
    .bind (.next hcut Binary32) fun _ => .pure _
  exact .bind hshift fun _ => .bind hshift fun _ => .bind hshift fun _ => .bind hshift fun _ =>
    .pure _

theorem tellsEnd_readSubGrid (hcut : cut ≤ data.size) (units : Units) :
    TellsEnd (ρ := ρ) data cut (readSubGrid α units) := by
  refine .bind (SubGridHeader.tellsEnd_read hcut) fun header =>
    .bind (.ofExcept _) fun ⟨rows, cols⟩ => .bind .here fun place =>
    .bind (.ensureRange hcut _ _) fun _ => ?_
  exact .bind (.repeatOnto (tellsEnd_readNode α hcut _) _ _) fun _ => .pure _

/-- Each sub-grid takes bytes, so that there is fuel for all of those in the source, whether it is
the whole or the part. -/
theorem cutShort_readSubGrids (hcut : cut ≤ data.size) (units : Units) {fuel fuel' : Nat}
    {done : List (SubGrid α)} {start : Place} (hstart : start.position ≤ cut)
    (hfuel : data.size < start.position + fuel) (hfuel' : cut < start.position + fuel') :
    CutShort (ρ := ρ) data cut start (readSubGrids α units fuel done)
      (readSubGrids α units fuel' done) := by
  induction fuel generalizing fuel' done start with
  | zero => omega
  | succ fuel ih =>
    obtain ⟨fuel', rfl⟩ : ∃ less, fuel' = less + 1 := ⟨fuel' - 1, by omega⟩
    refine .here_bind (.taking_bind hcut hstart (.text fieldLength .latin1 .trimPadding) fieldLength
      (fun _ => ⟨_, fun _ => by rw [Cursor.Operation.answer]⟩) fun label hlabel => ?_)
    by_cases hending : label = "END"
    · rw [if_pos hending, if_pos hending]
      exact TellsEnd.pure _ _ hlabel
    rw [if_neg hending, if_neg hending]
    by_cases hsection : label ≠ "SUB_NAME"
    · rw [if_pos hsection, if_pos hsection]
      exact .fails (Runs.throw _).fails.bind
    rw [if_neg hsection, if_neg hsection]
    refine .bind (tellsEnd_readSubGrid α hcut units _ hlabel) fun grid place hforward hplace => ?_
    -- the label alone takes more than one byte
    have hmoved : start.position + 1 ≤ place.position := by
      rw [Cursor.Place.position_advance, fieldLength] at hforward
      omega
    exact ih hplace (by omega) (by omega)

/-! ## Files -/

/-- The byte order is found if the part holds more than the first label. -/
theorem cutShort_detectOrder (hcut : cut ≤ data.size) (hlabel : fieldLength ≤ cut)
    (order : ByteOrder) : CutShort (ρ := ρ) data cut ⟨order, 0⟩ detectOrder detectOrder := by
  refine .here_bind ?_
  refine .bind (TellsEnd.bytes_atOffset hcut (by rwa [Nat.zero_add]) 4 _ (Nat.zero_le _))
    fun stored place _ hplace => ?_
  cases ByteOrder.ofKnown? stored.toList headerRecords with
  | some found => exact TellsEnd.pure _ _ hplace
  | none => exact TellsEnd.throw _ _ hplace

theorem cutShort_read (hcut : cut ≤ data.size) (hlabel : fieldLength ≤ cut) (name : String)
    (order : ByteOrder) :
    CutShort (ρ := ρ) data cut ⟨order, 0⟩ (read (α := α) name) (read (α := α) name) := by
  refine .bind (cutShort_detectOrder hcut hlabel order) fun order place _ hplace =>
    .bind (TellsEnd.setOrder order _ hplace) fun _ place _ hplace =>
    .bind (Overview.tellsEnd_read hcut _ hplace) fun overview place _ hplace => ?_
  -- the length of the source bounds the number of sub-grids
  have hgrids : CutShort (ρ := ρ) data cut place
      (readSubGrids α overview.units (data.size + 1) [])
      (readSubGrids α overview.units (cut + 1) []) :=
    cutShort_readSubGrids α hcut overview.units hplace (by omega) (by omega)
  have hbody := hgrids.bind fun found place _ hplace =>
    TellsEnd.bind (.ofExcept ((linkDeclared overview found).mapError .grid))
      (fun grids => .pure (⟨name, order, overview, grids.toArray, precedenceOf grids⟩ : GridFile α))
      place hplace
  refine .get_bind hbody (fun cursor hcursor => ?_) fun cursor hcursor => ?_
  · rw [hcursor.length_eq]
  · rw [hcursor.length_eq, Bytes.size_slice_zero hcut]

/-- The byte order is sought behind the first label, and a shorter source has no such place. -/
theorem runs_read_of_lt (h : data.size < fieldLength) (name : String) (order : ByteOrder) :
    Runs (ρ := ρ) data ⟨order, 0⟩ (read (α := α) name) (.error (.badOffset fieldLength))
      ⟨order, 0⟩ := by
  have hoffset : data.size < 0 + fieldLength := by rwa [Nat.zero_add]
  have hdetect : Runs (ρ := ρ) data ⟨order, 0⟩ detectOrder (.error (.badOffset (0 + fieldLength)))
      ⟨order, 0⟩ :=
    Runs.here.bind (Runs.atOffset_of_lt hoffset).bind_error
  rw [Nat.zero_add] at hdetect
  exact hdetect.bind_error

end Grids

/-! ## Files that end with their label -/

section Resources

variable {α : Type} [Scalar α] {resource whole part : Resource} {file : GridFile α}

/-- Names of resources are kept, and nothing depends on them. -/
theorem read_eq_bind (name other : String) :
    (read name : Cursor.Action ResourceReader (GridFile α)) =
      read other >>= fun file => pure { file with name } := by
  simp [read, readBody]

/-- `ReadToEnd resource data file`: the resource holds the bytes `data`, the file is found in them,
and nothing is left to read then; so the label that ends the file is the last thing there. -/
structure ReadToEnd (resource : Resource) (data : Bytes) (file : GridFile α) : Prop where
  bytes_eq : resource.bytes = .ok data
  exists_run : ∃ cursor finish, resource.cursor .little = .ok cursor ∧
    cursor.run (read resource.name) = (.ok file, finish) ∧ finish.remaining = 0

namespace ReadToEnd

theorem exists_stands (h : ReadToEnd resource data file) :
    ∃ cursor finish : Cursor ResourceReader, cursor.Stands data ⟨.little, 0⟩ ∧
      cursor.run (read resource.name) = (.ok file, finish) ∧ finish.remaining = 0 ∧
      data.size < positionBound := by
  obtain ⟨cursor, finish, hopen, hrun, hleft⟩ := h.exists_run
  obtain ⟨held, hbytes, hcursor⟩ := Resource.exists_bytes_of_cursor hopen
  obtain rfl : held = data := Except.ok.inj (hbytes.symm.trans h.bytes_eq)
  refine ⟨cursor, finish, hcursor, hrun, hleft, ?_⟩
  -- longer sources are not opened
  by_contra hlong
  rw [Resource.cursor_of_le hbytes (Nat.not_lt.1 hlong)] at hopen
  cases hopen

end ReadToEnd

/-- A reading that fails at the start of the bytes refuses their resource. -/
theorem ofResource_of_runs_error {name : String} {fault : Error} {place : Place}
    (hbytes : resource.bytes = .ok data) (hsize : data.size < positionBound)
    (h : Runs data ⟨.little, 0⟩ (read name : Cursor.Action ResourceReader (GridFile α))
      (.error fault) place) :
    (ofResource resource : Except Error (GridFile α)) = .error fault := by
  obtain ⟨cursor, hcursor, hstands⟩ := Resource.exists_cursor_of_bytes hbytes hsize .little
  have hread := h.bind_pure fun file => { file with name := resource.name }
  rw [← read_eq_bind] at hread
  obtain ⟨finish, hrun, -⟩ := hread cursor hstands
  rw [ofResource, hcursor, Except.ok_bind, hrun]
  rfl

/-- Fewer bytes than the first label takes are refused, but not since they end. -/
theorem ofResource_of_lt (hbytes : resource.bytes = .ok data) (h : data.size < fieldLength) :
    (ofResource resource : Except Error (GridFile α)) = .error (.badOffset fieldLength) := by
  have hsize : data.size < positionBound := Nat.lt_trans h (by decide)
  exact ofResource_of_runs_error hbytes hsize (runs_read_of_lt α h resource.name .little)

end Resources

/-! ## Written files -/

/-- The bytes of a file up to its last label. -/
def StoredFile.encodeToLabel (order : ByteOrder) (file : StoredFile) : List UInt8 :=
  file.header order ++
    (file.grids.flatMap (StoredSubGrid.encode order) ++ textField "END")

variable {stored : StoredFile} {units : Units} {order : ByteOrder}

/-- A loadable file is read up to its last label. -/
theorem runs_read_written (hfile : stored.Writable units) (h : Loadable stored) (name : String)
    (hholds : Cursor.Holds data 0 (stored.encodeToLabel order)) :
    Runs (ρ := ρ) data ⟨.little, 0⟩ (read name) (.ok (stored.loaded name order units))
      ⟨order, (stored.encodeToLabel order).length⟩ := by
  have hcount : 0 ≤ stored.fileCount.toInt := by
    rw [h.fileCount_eq]
    exact Int.natCast_nonneg _
  have hheader := hholds.left
  have hbody := hholds.right
  rw [Nat.zero_add] at hbody
  obtain ⟨-, htakes⟩ | ⟨hnot, -⟩ := @readBody_cases stored units ρ _ _ order name hfile hcount
  · have hoverview : Runs (ρ := ρ) data ⟨order, 0⟩ Overview.read (.ok (stored.overview units))
        ((⟨order, 0⟩ : Place).advance (stored.header order).length) :=
      takes_overview hfile hcount data ⟨order, 0⟩ rfl hheader
    have hrest := htakes data ((⟨order, 0⟩ : Place).advance (stored.header order).length) rfl
      (by rwa [Place.position_advance, Nat.zero_add])
    have hplace : ((⟨order, 0⟩ : Place).advance (stored.header order).length).advance
        (stored.grids.flatMap (StoredSubGrid.encode order) ++ textField "END").length =
          ⟨order, (stored.encodeToLabel order).length⟩ := by
      rw [Place.advance_advance, ← List.length_append, Place.advance, Nat.zero_add]
      rfl
    rw [hplace] at hrest
    exact (detects_order hheader).bind ((Runs.setOrder order).bind (hoverview.bind hrest))
  · exact absurd h hnot

/-- Written files end with their label once the padding behind it is left out. -/
theorem readToEnd_written (hfile : stored.Writable units) (h : Loadable stored)
    {resource : Resource} (hbytes : resource.bytes = .ok (stored.encodeToLabel order).toArray)
    (hsize : (stored.encodeToLabel order).length < positionBound) :
    ReadToEnd resource (stored.encodeToLabel order).toArray
      (stored.loaded resource.name order units) := by
  have hholds := Cursor.holds_start (stored.encodeToLabel order) []
  rw [List.append_nil] at hholds
  obtain ⟨cursor, hcursor, hstands⟩ := Resource.exists_cursor_of_bytes hbytes hsize .little
  obtain ⟨finish, hrun, hfinish⟩ :=
    runs_read_written hfile h resource.name hholds cursor hstands
  refine ⟨hbytes, cursor, finish, hcursor, hrun, ?_⟩
  rw [Cursor.remaining, hfinish.length_eq, hfinish.position_eq, List.size_toArray, Nat.sub_self]

/-! ## Cuts -/

section Cuts

variable {α : Type} [Scalar α] {whole part : Resource} {file : GridFile α}

/-- Where the bytes of a grid file that ends with its last label are cut short, the file is refused
since the data ends, if at least the first label is whole. Inside of that label it is refused as
well, but for a bad offset. -/
theorem ofResource_truncated (h : ReadToEnd whole data file) (hcut : cut < data.size)
    (hpart : part.bytes = .ok (data.slice 0 cut)) :
    (fieldLength ≤ cut → ∃ fault, (ofResource part : Except Error (GridFile α)) = .error fault ∧
        fault.isEndOfData = true) ∧
      (cut < fieldLength →
        (ofResource part : Except Error (GridFile α)) = .error (.badOffset fieldLength)) := by
  obtain ⟨cursor, finish, hcursor, hrun, hleft, hlong⟩ := h.exists_stands
  have hsize := Bytes.size_slice_zero (Nat.le_of_lt hcut)
  constructor
  · intro hlabel
    have hread : CutShort (ρ := ResourceReader) data cut ⟨.little, 0⟩ (read (α := α) whole.name)
        (read whole.name) :=
      cutShort_read α (Nat.le_of_lt hcut) hlabel whole.name .little
    rcases hread with
      ⟨fault, place, hfails⟩ | ⟨found, place, -, hinside, hwhole, -⟩ | ⟨fault, place, hend, hends⟩
    · obtain ⟨reached, hfailed, -⟩ := hfails cursor hcursor
      rw [hfailed] at hrun
      cases hrun
    · -- the part has come to the label at the end, which is behind the cut
      obtain ⟨reached, hreached, hstop⟩ := hwhole cursor hcursor
      obtain ⟨-, rfl⟩ := Prod.mk.inj (hreached.symm.trans hrun)
      rw [Cursor.remaining, hstop.length_eq, hstop.position_eq] at hleft
      omega
    · exact ⟨fault, ofResource_of_runs_error hpart (by omega) hends, hend⟩
  · intro hshort
    exact ofResource_of_lt hpart (by omega)

end Cuts

/-- Two sub-grids, the second of which refines the first, up to the label behind them. -/
def pairBytes : Bytes :=
  ((pairFile "NONE" "A").encodeToLabel .big).toArray

theorem readToEnd_pairBytes :
    ReadToEnd (.memory "pair" pairBytes) pairBytes
      ((pairFile "NONE" "A").loaded "pair" .big .minutes) :=
  readToEnd_written (pairFile.writable (by decide) (by decide)) (pairFile.loadable (by decide)) rfl
    (by decide +kernel)

/-- A cut among the last nodes is told as such, and one inside of the first label as an offset. -/
theorem ofResource_truncated_pair :
    ReadToEnd (.memory "pair" pairBytes) pairBytes
        ((pairFile "NONE" "A").loaded "pair" .big .minutes) ∧
      pairBytes.size = 664 ∧
      (∃ fault, (ofResource (.memory "part" (pairBytes.slice 0 600)) :
          Except Error (GridFile Float)) = .error fault ∧ fault.isEndOfData = true) ∧
      (ofResource (.memory "part" (pairBytes.slice 0 7)) : Except Error (GridFile Float)) =
        .error (.badOffset 8) := by
  have hsize : pairBytes.size = 664 := by decide +kernel
  refine ⟨readToEnd_pairBytes, hsize, ?_, ?_⟩
  · exact (ofResource_truncated readToEnd_pairBytes (by omega) rfl).1 (by decide)
  · exact (ofResource_truncated readToEnd_pairBytes (by omega) rfl).2 (by decide)

/-- Of a file that ends with its label, half of the first label is refused for another reason than
that the data ends. -/
theorem exists_cut_refused_as_offset :
    ∃ (cut : Nat) (file : GridFile Float) (fault : Error),
      ReadToEnd (.memory "pair" pairBytes) pairBytes file ∧ cut < pairBytes.size ∧
        (ofResource (.memory "part" (pairBytes.slice 0 cut)) : Except Error (GridFile Float)) =
          .error fault ∧ fault.isEndOfData = false := by
  have hsize : pairBytes.size = 664 := by decide +kernel
  have hpart : (pairBytes.slice 0 4).size = 4 := Bytes.size_slice_zero (by omega)
  have hrefused : (ofResource (.memory "part" (pairBytes.slice 0 4)) :
      Except Error (GridFile Float)) = .error (.badOffset fieldLength) :=
    ofResource_of_lt rfl (by rw [hpart]; decide)
  exact ⟨4, _, _, readToEnd_pairBytes, by omega, hrefused, rfl⟩

end Georef.GridFile
