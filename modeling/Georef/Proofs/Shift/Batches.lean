import Georef.Proofs.Csv.WrittenTables
import Georef.Proofs.Decimal.RoundTrip
import Georef.Proofs.Outcome
import Georef.Proofs.Shift.Inverse
import Georef.Shift.Batch
import Mathlib.Data.List.Forall2

/-!
# Batches of points

The points of a table are shifted together, but each comes to what it comes to alone. The rows of
the result are those of the table, in their order; every one tells its point and where that was
shifted to, or that it was not. Whoever reads the table that is sent finds just this in its columns:
the same coordinates, down to the last bit, and the same names, whatever is in them. If there is a
row that holds no point then nothing is sent but the number of the first such row.

The module introduces:

* `NamedPoint.ofRow?`, `NamedPoint.parsed` — the point that a row holds, and those of all rows.
* `BatchRow.Reports shift source row` — the row tells what the shift does to the point.
* `Told text x` — the text is read as the coordinate `x`.
* `SentRow.Reports shift source row` — so does a row of the table that is sent, in its columns.
* `Batch.Reports shift points batch` — the rows of the batch and of the table do, in the order of the
  points, and the summary counts them.
* `Batch.ofBytes_reports` — the batch of a table, or why there is none.
-/

namespace Georef

/-! ## The points of a table -/

namespace NamedPoint

variable {α : Type} [Scalar α] {table : Csv.Table} {rows : List (Option (List String))}

/-- The point that a row holds; none if it cannot be read. -/
def ofRow? (table : Csv.Table) (fields : Option (List String)) : Option (NamedPoint α) :=
  (fields.bind (table.pick columns)).bind ofFields?

variable (α) in
/-- The points of all rows of a table, none for those that cannot be read. -/
def parsed (bytes : Bytes) : List (Option (NamedPoint α)) :=
  (Csv.Table.ofBytes bytes).rows.map (ofRow? (Csv.Table.ofBytes bytes))

/-- Rows come to points if all of them hold points, and to these. -/
theorem ofRows_eq_ok_iff {points : List (NamedPoint α)} {row : Nat} :
    ofRows table row rows = .ok points ↔ rows.map (ofRow? table) = points.map some := by
  induction rows generalizing points row with
  | nil =>
    cases points with
    | nil => exact ⟨fun _ => rfl, fun _ => rfl⟩
    | cons => exact ⟨nofun, nofun⟩
  | cons fields rest ih =>
    rw [List.map_cons]
    cases hfirst : ofRow? (α := α) table fields with
    | none =>
      have hfields : (fields.bind (table.pick columns)).bind (ofFields? (α := α)) = none := hfirst
      simp only [ofRows, hfields]
      refine ⟨nofun, fun h => ?_⟩
      cases points with
      | nil => cases h
      | cons => cases (List.cons.inj h).1
    | some point =>
      have hfields : (fields.bind (table.pick columns)).bind ofFields? = some point := hfirst
      simp only [ofRows, hfields, Except.map_eq_ok_iff, ih]
      constructor
      · rintro ⟨others, hothers, rfl⟩
        rw [hothers, List.map_cons]
      · intro h
        cases points with
        | nil => cases h
        | cons other others =>
          obtain ⟨hpoint, hothers⟩ := List.cons.inj h
          obtain rfl := Option.some.inj hpoint
          exact ⟨others, hothers, rfl⟩

/-- The first row that holds no point is told by its number. -/
theorem ofRows_eq_error {i : Nat} (h : (rows.map (ofRow? (α := α) table))[i]? = some none)
    (hbefore : ∀ j < i, (rows.map (ofRow? (α := α) table))[j]? ≠ some none) (row : Nat) :
    (ofRows table row rows : Except Error (List (NamedPoint α))) =
      .error (.format (.pointRow (row + i))) := by
  induction rows generalizing i row with
  | nil => simp at h
  | cons fields rest ih =>
    cases i with
    | zero =>
      have hfirst : ofRow? (α := α) table fields = none := by simpa using h
      have hfields : (fields.bind (table.pick columns)).bind (ofFields? (α := α)) = none := hfirst
      simp only [ofRows, hfields, Nat.add_zero]
    | succ i =>
      -- the row in front of the others holds a point, so that the failure is behind it
      have hfirst : ofRow? (α := α) table fields ≠ none := fun hnone =>
        hbefore 0 (Nat.zero_lt_succ i) (congrArg some hnone)
      obtain ⟨point, hpoint⟩ := Option.ne_none_iff_exists'.1 hfirst
      have hfields : (fields.bind (table.pick columns)).bind ofFields? = some point := hpoint
      have hrest := ih (i := i) h (fun j hj => hbefore (j + 1) (Nat.succ_lt_succ hj)) (row + 1)
      simp only [ofRows, hfields, hrest]
      rw [Nat.add_right_comm, Nat.add_assoc]
      rfl

/-- A name that is read from a row is not empty. -/
theorem name_ne_of_ofRow? {fields : Option (List String)} {source : NamedPoint α}
    (h : ofRow? table fields = some source) : source.name ≠ some "" := by
  obtain ⟨picked, -, hfields⟩ := Option.bind_eq_some_iff.1 h
  match picked, hfields with
  | [latitude, longitude, name], hfields =>
    simp only [ofFields?, Option.bind_eq_bind, Option.bind_eq_some_iff, Option.pure_def,
      Option.some.injEq] at hfields
    obtain ⟨y, -, x, -, read, hname, rfl⟩ := hfields
    rintro rfl
    match name, hname with
    | some text, hname =>
      -- an empty text stands for no name
      rw [Csv.optional?] at hname
      split at hname
      · cases hname
      · rename_i hempty
        obtain rfl : text = "" := Option.some.inj (Option.some.inj hname)
        exact hempty rfl

end NamedPoint

/-! ## What rows and batches tell -/

variable {α : Type} [Scalar α]

/-- `Reports shift source row`: the row tells the point with its name, and where the shift moves the
point when it is moved alone; a point that is not moved is told unchanged. -/
structure BatchRow.Reports (shift : GridShift α) (source : NamedPoint α) (row : BatchRow α) :
    Prop where
  source_eq : row.source = source
  shifted : ∀ reached, shift.shifted? source.point = some reached →
    row.reached = reached ∧ row.status = "SHIFTED"
  outside : shift.shifted? source.point = none →
    row.reached = source.point ∧ row.status = "OUTSIDE_GRID"

namespace BatchRow

variable {shift : GridShift α} {source : NamedPoint α} {row : BatchRow α}

/-- A row of a point that is shifted. -/
theorem Reports.eq_of_shifted (h : row.Reports shift source) {reached : Point α}
    (hreached : shift.shifted? source.point = some reached) :
    row = ⟨source, reached, true⟩ := by
  obtain ⟨rfl, hshifted, -⟩ := h
  obtain ⟨rfl, hstatus⟩ := hshifted reached hreached
  obtain ⟨source, reached, covered⟩ := row
  cases covered with
  | true => rfl
  | false => exact absurd (show "OUTSIDE_GRID" = "SHIFTED" from hstatus) (by decide)

/-- A row of a point that is not shifted. -/
theorem Reports.eq_of_outside (h : row.Reports shift source)
    (hnone : shift.shifted? source.point = none) : row = ⟨source, source.point, false⟩ := by
  obtain ⟨rfl, -, houtside⟩ := h
  obtain ⟨hreached, hstatus⟩ := houtside hnone
  obtain ⟨source, reached, covered⟩ := row
  obtain rfl : reached = source.point := hreached
  cases covered with
  | true => exact absurd (show "SHIFTED" = "OUTSIDE_GRID" from hstatus) (by decide)
  | false => rfl

end BatchRow

/-- `Told text x`: the text is read as the double of the coordinate `x`. -/
def Told (text : String) (x : α) : Prop :=
  Decimal.readDouble? text = some (Scalar.toDouble x).toFloat

/-- Where coordinates are doubles, the text is read as the coordinate itself. -/
theorem told_iff {text : String} {x : Float} :
    Told text x ↔ NamedPoint.coordinate? text = some x := by
  have hdouble : (Scalar.toDouble x).toFloat = x := Double.toFloat_ofFloat x
  have hcoordinate : NamedPoint.coordinate? text = Decimal.readDouble? text := by
    rw [NamedPoint.coordinate?]
    refine (Option.map_congr fun y _ => ?_).trans Option.map_id'
    exact Double.toFloat_ofFloat y
  rw [Told, hdouble, hcoordinate]

theorem told_coordinateText (x : α) : Told (BatchRow.coordinateText x) x :=
  Decimal.readDouble?_write _ _

/-- The values of a row of the table that is sent. -/
structure SentRow where
  latitude : String
  longitude : String
  name : String
  shiftedLatitude : String
  shiftedLongitude : String
  status : String

namespace SentRow

/-- The names of the columns. -/
def columns : List String :=
  ["latitude", "longitude", "name", "shifted_latitude", "shifted_longitude", "status"]

/-- The values in the order of the columns. -/
def values (row : SentRow) : List String :=
  [row.latitude, row.longitude, row.name, row.shiftedLatitude, row.shiftedLongitude, row.status]

/-- `Reports shift source row`: the row repeats the coordinates and the name of the point, and tells
where the shift moves the point when it is moved alone. If it is not moved, its coordinates are
written twice. -/
structure Reports (shift : GridShift α) (source : NamedPoint α) (row : SentRow) : Prop where
  latitude : Told row.latitude source.point.y
  longitude : Told row.longitude source.point.x
  name_eq : row.name = source.name.getD ""
  shifted : ∀ reached, shift.shifted? source.point = some reached →
    Told row.shiftedLatitude reached.y ∧ Told row.shiftedLongitude reached.x ∧
      row.status = "SHIFTED"
  outside : shift.shifted? source.point = none →
    row.shiftedLatitude = row.latitude ∧ row.shiftedLongitude = row.longitude ∧
      row.status = "OUTSIDE_GRID"

/-- Where coordinates are doubles, the row is read as the point. -/
theorem Reports.ofRow? {shift : GridShift Float} {source : NamedPoint Float} {row : SentRow}
    (h : row.Reports shift source) (hname : source.name ≠ some "")
    (rows : List (Option (List String))) :
    NamedPoint.ofRow? { header := some columns, rows } (some row.values) = some source := by
  have hlatitude := told_iff.1 h.latitude
  have hlongitude := told_iff.1 h.longitude
  have hoptional : Csv.optional? some (some row.name) = some source.name := by
    rw [h.name_eq, Csv.optional?]
    cases hsource : source.name with
    | none => rfl
    | some name =>
      have hempty : name.isEmpty = false := by
        rw [Bool.eq_false_iff, ne_eq, String.isEmpty_iff]
        rintro rfl
        exact hname hsource
      rw [Option.getD_some, hempty]
      rfl
  show NamedPoint.ofFields? [some row.latitude, some row.longitude, some row.name] = some source
  simp only [NamedPoint.ofFields?, Csv.required?, Option.bind_some, hlatitude, hlongitude, hoptional,
    Option.bind_eq_bind, Option.pure_def]

end SentRow

/-- A row as it is sent. -/
def BatchRow.sent (row : BatchRow α) : SentRow where
  latitude := coordinateText row.source.point.y
  longitude := coordinateText row.source.point.x
  name := row.source.name.getD ""
  shiftedLatitude := coordinateText row.reached.y
  shiftedLongitude := coordinateText row.reached.x
  status := row.status

/-- What a row of a batch tells is told by the row that is sent. -/
theorem BatchRow.Reports.sent {shift : GridShift α} {source : NamedPoint α} {row : BatchRow α}
    (h : row.Reports shift source) : row.sent.Reports shift source := by
  obtain ⟨rfl, hshifted, houtside⟩ := h
  refine ⟨told_coordinateText _, told_coordinateText _, rfl, fun reached hreached => ?_,
    fun hnone => ?_⟩
  · obtain ⟨rfl, hstatus⟩ := hshifted reached hreached
    exact ⟨told_coordinateText _, told_coordinateText _, hstatus⟩
  · obtain ⟨hreached, hstatus⟩ := houtside hnone
    refine ⟨?_, ?_, hstatus⟩
    · show coordinateText row.reached.y = coordinateText row.source.point.y
      rw [hreached]
    · show coordinateText row.reached.x = coordinateText row.source.point.x
      rw [hreached]

namespace Batch

/-- `Reports shift points batch`: the rows of the batch are those of the points in order, and the
summary counts them by their outcome. Whoever reads the table that is written finds the columns, and
a row for each of the points that tells the same. -/
structure Reports (shift : GridShift α) (points : List (NamedPoint α)) (batch : Batch α) :
    Prop where
  rows : List.Forall₂ (BatchRow.Reports shift) points batch.rows
  shifted_eq : batch.shifted = batch.rows.countP fun row => row.status = "SHIFTED"
  outside_eq : points.length - batch.shifted =
    batch.rows.countP fun row => row.status = "OUTSIDE_GRID"
  text_eq : batch.text = String.join (["# Statistics", s!"# Total points: {points.length}",
    s!"# Shifted: {batch.shifted}", s!"# Outside grid: {points.length - batch.shifted}"].map
      (· ++ "\n")) ++ batch.table
  table : ∃ sent : List SentRow, List.Forall₂ (SentRow.Reports shift) points sent ∧
    Csv.Table.ofBytes (Bytes.ofText batch.table) =
      { header := some (if points.isEmpty then [] else SentRow.columns)
        rows := sent.map fun row => some row.values }

/-- The rows of a batch are those of its points. -/
theorem forall₂_rows_ofPoints (shift : GridShift α) (points : List (NamedPoint α)) :
    List.Forall₂ (BatchRow.Reports shift) points (ofPoints shift points).rows := by
  induction points with
  | nil => exact .nil
  | cons source points ih =>
    refine .cons ⟨rfl, fun reached hreached => ?_, fun hnone => ?_⟩ ih
    · simp [BatchRow.status, hreached]
    · simp [BatchRow.status, hnone]

/-- The table of a batch is found in what is written of it. -/
theorem ofBytes_table (batch : Batch α) :
    Csv.Table.ofBytes (Bytes.ofText batch.table) =
      { header := some (if batch.rows.isEmpty then [] else BatchRow.columns)
        rows := batch.rows.map fun row => some row.fields } := by
  have hmark : ∀ bytes, Csv.skipMark ((Bytes.ofText (Csv.writeRecord BatchRow.columns)).toList ++
      bytes) = (Bytes.ofText (Csv.writeRecord BatchRow.columns)).toList ++ bytes := by
    intro bytes
    -- the name of the first column begins with a letter
    have hfirst : (Bytes.ofText (Csv.writeRecord BatchRow.columns)).toList =
        0x6C :: (Bytes.ofText (Csv.writeRecord BatchRow.columns)).toList.tail := by
      decide +kernel
    rw [hfirst]
    rfl
  have hsix : ∀ fields ∈ batch.rows.map BatchRow.fields,
      fields.length = BatchRow.columns.length := by
    intro fields hfields
    obtain ⟨row, -, rfl⟩ := List.mem_map.1 hfields
    rfl
  cases hrows : batch.rows with
  | nil =>
    -- nothing is written then, not even the header
    rw [table, hrows]
    rfl
  | cons first rest =>
    rw [hrows] at hsix
    have htable : batch.table =
        String.join ((BatchRow.columns :: (first :: rest).map BatchRow.fields).map
          Csv.writeRecord) := by
      rw [table, hrows]
    rw [htable, Csv.Table.ofBytes_write (by decide) hsix hmark, List.map_map]
    rfl

/-- The points of a batch are told as the shift moves them. -/
theorem reports_ofPoints (shift : GridShift α) (points : List (NamedPoint α)) :
    (ofPoints shift points).Reports shift points := by
  have hrows := forall₂_rows_ofPoints shift points
  have hlength : points.length = (ofPoints shift points).rows.length := hrows.length_eq
  have htotal : (ofPoints shift points).total = points.length := hlength.symm
  -- a row tells by its word whether the point was shifted
  have hshifted : ∀ row : BatchRow α, row.covered = true ↔ row.status = "SHIFTED" := by
    intro row
    cases hcovered : row.covered <;> simp [BatchRow.status, hcovered]
  have houtside : ∀ row : BatchRow α, ¬row.covered = true ↔ row.status = "OUTSIDE_GRID" := by
    intro row
    cases hcovered : row.covered <;> simp [BatchRow.status, hcovered]
  refine ⟨hrows, ?_, ?_, ?_, ?_⟩
  · exact List.countP_congr fun row _ => by simpa using hshifted row
  · have hparts : (ofPoints shift points).rows.length =
        (ofPoints shift points).shifted + (ofPoints shift points).rows.countP
          fun row => decide ¬row.covered = true := List.length_eq_countP_add_countP _
    have hothers : ((ofPoints shift points).rows.countP fun row => decide ¬row.covered = true) =
        (ofPoints shift points).rows.countP fun row => row.status = "OUTSIDE_GRID" :=
      List.countP_congr fun row _ => by simpa using houtside row
    omega
  · rw [text, summary, htotal]
  · refine ⟨(ofPoints shift points).rows.map BatchRow.sent, ?_, ?_⟩
    · rw [List.forall₂_map_right_iff]
      exact hrows.imp fun source row h => h.sent
    · rw [ofBytes_table, List.map_map]
      cases points <;> rfl

/-- Rows that report the points of a shift are read as these points. -/
theorem map_ofRow?_of_reports {shift : GridShift Float} {points : List (NamedPoint Float)}
    {sent : List SentRow} (h : List.Forall₂ (SentRow.Reports shift) points sent)
    (hnames : ∀ source ∈ points, source.name ≠ some "") (rows : List (Option (List String))) :
    (sent.map fun row =>
      NamedPoint.ofRow? { header := some SentRow.columns, rows } (some row.values)) =
      points.map some := by
  induction h with
  | nil => rfl
  | cons hfirst _ ih =>
    rw [List.map_cons, List.map_cons, hfirst.ofRow? (hnames _ (List.mem_cons_self ..)),
      ih fun source hsource => hnames source (List.mem_cons_of_mem _ hsource)]

/-- A table has a batch if all of its rows hold points, and it is the batch of these. -/
theorem ofBytes_eq_ok_iff {shift : GridShift α} {bytes : Bytes} {batch : Batch α} :
    ofBytes shift bytes = .ok batch ↔
      ∃ points, NamedPoint.parsed α bytes = points.map some ∧ ofPoints shift points = batch := by
  rw [ofBytes, NamedPoint.ofBytes, Except.map_eq_ok_iff]
  simp only [NamedPoint.ofRows_eq_ok_iff, NamedPoint.parsed]

/-- Where coordinates are doubles, the table that is sent is again a table of the same points. -/
theorem parsed_table {shift : GridShift Float} {bytes : Bytes} {batch : Batch Float}
    (h : ofBytes shift bytes = .ok batch) :
    NamedPoint.parsed Float (Bytes.ofText batch.table) = NamedPoint.parsed Float bytes := by
  obtain ⟨points, hpoints, rfl⟩ := ofBytes_eq_ok_iff.1 h
  have hnames : ∀ source ∈ points, source.name ≠ some "" := by
    intro source hsource
    have hmem : some source ∈ NamedPoint.parsed Float bytes := by
      rw [hpoints]
      exact List.mem_map_of_mem hsource
    obtain ⟨fields, -, hfields⟩ := List.mem_map.1 hmem
    exact NamedPoint.name_ne_of_ofRow? hfields
  obtain ⟨sent, hsent, htable⟩ := (reports_ofPoints shift points).table
  rw [hpoints, NamedPoint.parsed, htable, List.map_map]
  cases hsent with
  | nil => rfl
  | cons hfirst hrest => exact map_ofRow?_of_reports (.cons hfirst hrest) hnames _

/-- If all rows of a table hold points then the batch reports them. If not, the first row that holds
none is told by its number, counted from one, and there is no batch. Where coordinates are doubles,
the points of the table that is sent are those of the table that was given. -/
theorem ofBytes_reports :
    (∀ {α : Type} [Scalar α] (shift : GridShift α) (bytes : Bytes),
      (∀ points : List (NamedPoint α), NamedPoint.parsed α bytes = points.map some →
        ∃ batch, ofBytes shift bytes = .ok batch ∧ batch.Reports shift points) ∧
      ∀ i, (NamedPoint.parsed α bytes)[i]? = some none →
        (∀ j < i, (NamedPoint.parsed α bytes)[j]? ≠ some none) →
        ofBytes shift bytes = .error (.format (.pointRow (i + 1)))) ∧
    ∀ (shift : GridShift Float) (bytes : Bytes) (batch : Batch Float),
      ofBytes shift bytes = .ok batch →
      NamedPoint.parsed Float (Bytes.ofText batch.table) = NamedPoint.parsed Float bytes := by
  refine ⟨fun shift bytes => ⟨fun points hpoints => ?_, fun i hi hbefore => ?_⟩,
    fun shift bytes batch => parsed_table⟩
  · exact ⟨_, ofBytes_eq_ok_iff.2 ⟨points, hpoints, rfl⟩, reports_ofPoints shift points⟩
  · rw [ofBytes, NamedPoint.ofBytes, NamedPoint.ofRows_eq_error hi hbefore, Nat.add_comm]
    rfl

/-- Of two points one is shifted by half a degree, and the other one is not on the sub-grid. A point
without a longitude in the second row refuses the whole table. A point without a name is read again
from the table that is sent. -/
theorem ofBytes_reports_halfDegree :
    ∃ file : GridFile Rat, GridFile.ofResource GridShift.halfDegreeSource = .ok file ∧
      (∃ batch, ofBytes (GridShift.ofFile file) (Bytes.ofText
          "latitude,longitude,name\n0.25,-0.5,on\n-0.25,-0.5,\"off, far\"\n") = .ok batch ∧
        batch.text = "# Statistics\n# Total points: 2\n# Shifted: 1\n# Outside grid: 1\n" ++
          "latitude,longitude,name,shifted_latitude,shifted_longitude,status\n" ++
          "0.25,-0.5,on,0.75,-0.5,SHIFTED\n" ++
          "-0.25,-0.5,\"off, far\",-0.25,-0.5,OUTSIDE_GRID\n" ∧
        ∃ first second : SentRow,
          (Csv.Table.ofBytes (Bytes.ofText batch.table)).rows =
            [some first.values, some second.values] ∧
          first.name = "on" ∧ first.status = "SHIFTED" ∧
          [first.latitude, first.longitude, first.shiftedLatitude, first.shiftedLongitude].map
            Decimal.readDouble? = [some 0.25, some (-0.5), some 0.75, some (-0.5)] ∧
          second.name = "off, far" ∧ second.status = "OUTSIDE_GRID" ∧
          [second.latitude, second.longitude, second.shiftedLatitude, second.shiftedLongitude].map
            Decimal.readDouble? = [some (-0.25), some (-0.5), some (-0.25), some (-0.5)]) ∧
      ofBytes (GridShift.ofFile file) (Bytes.ofText
          "latitude,longitude,name\n0.25,-0.5,on\n-0.25,,off\n") =
        .error (.format (.pointRow 2)) ∧
      ∃ batch : Batch Float, ofBytes ⟨[], .forward⟩ (Bytes.ofText
          "latitude,longitude,name\n0.1,-1e-7,\n") = .ok batch ∧
        NamedPoint.parsed Float (Bytes.ofText batch.table) = [⟨⟨-1e-7, 0.1⟩, none⟩].map some := by
  obtain ⟨file, hfile, -, -, hforward, -, hnone⟩ := GridShift.exists_halfDegree
  refine ⟨file, hfile, ?_, ?_, ?_⟩
  · have hparsed : NamedPoint.parsed Rat (Bytes.ofText
        "latitude,longitude,name\n0.25,-0.5,on\n-0.25,-0.5,\"off, far\"\n") =
        [⟨⟨-1 / 2, 1 / 4⟩, some "on"⟩, ⟨⟨-1 / 2, -1 / 4⟩, some "off, far"⟩].map some := by
      decide +kernel
    obtain ⟨batch, hbatch, hreports⟩ := (ofBytes_reports.1 (GridShift.ofFile file) _).1 _ hparsed
    refine ⟨batch, hbatch, ?_, ?_⟩
    · have hrows : batch.rows =
          [⟨⟨⟨-1 / 2, 1 / 4⟩, some "on"⟩, ⟨-1 / 2, 3 / 4⟩, true⟩,
            ⟨⟨⟨-1 / 2, -1 / 4⟩, some "off, far"⟩, ⟨-1 / 2, -1 / 4⟩, false⟩] := by
        obtain ⟨first, _, hfirst, hrest, hrows⟩ := List.forall₂_cons_left_iff.1 hreports.rows
        obtain ⟨second, _, hsecond, hnil, rfl⟩ := List.forall₂_cons_left_iff.1 hrest
        obtain rfl := List.forall₂_nil_left_iff.1 hnil
        rw [hrows, hfirst.eq_of_shifted hforward, hsecond.eq_of_outside hnone]
      have hbatch : batch = ⟨batch.rows⟩ := rfl
      rw [hbatch, hrows]
      decide +kernel
    · obtain ⟨sent, hsent, htable⟩ := hreports.table
      obtain ⟨first, _, hfirst, hrest, rfl⟩ := List.forall₂_cons_left_iff.1 hsent
      obtain ⟨second, _, hsecond, hnil, rfl⟩ := List.forall₂_cons_left_iff.1 hrest
      obtain rfl := List.forall₂_nil_left_iff.1 hnil
      obtain ⟨hlat, hlon, hshifted⟩ := hfirst.shifted _ hforward
      obtain ⟨hlat', hlon', houtside⟩ := hsecond.outside hnone
      -- the doubles of the four numbers in the texts
      have hquarter : (Scalar.toDouble (1 / 4 : Rat)).toFloat = 0.25 := by decide +kernel
      have hsouth : (Scalar.toDouble (-1 / 4 : Rat)).toFloat = -0.25 := by decide +kernel
      have hthree : (Scalar.toDouble (3 / 4 : Rat)).toFloat = 0.75 := by decide +kernel
      have hwest : (Scalar.toDouble (-1 / 2 : Rat)).toFloat = -0.5 := by decide +kernel
      have hlatitude : Decimal.readDouble? first.latitude = some 0.25 := hquarter ▸ hfirst.latitude
      have hlongitude : Decimal.readDouble? first.longitude = some (-0.5) :=
        hwest ▸ hfirst.longitude
      have hreachedLat : Decimal.readDouble? first.shiftedLatitude = some 0.75 := hthree ▸ hlat
      have hreachedLon : Decimal.readDouble? first.shiftedLongitude = some (-0.5) := hwest ▸ hlon
      have hlatitude' : Decimal.readDouble? second.latitude = some (-0.25) :=
        hsouth ▸ hsecond.latitude
      have hlongitude' : Decimal.readDouble? second.longitude = some (-0.5) :=
        hwest ▸ hsecond.longitude
      refine ⟨first, second, by rw [htable]; rfl, hfirst.name_eq, hshifted, ?_, hsecond.name_eq,
        houtside, ?_⟩
      · simp only [List.map_cons, List.map_nil, hlatitude, hlongitude, hreachedLat, hreachedLon]
      · simp only [List.map_cons, List.map_nil, hlat', hlon', hlatitude', hlongitude']
  · refine (ofBytes_reports.1 (GridShift.ofFile file) _).2 1 (by decide +kernel) ?_
    intro j hj
    obtain rfl := Nat.lt_one_iff.1 hj
    decide +kernel
  · have hparsed : NamedPoint.parsed Float (Bytes.ofText
        "latitude,longitude,name\n0.1,-1e-7,\n") = [⟨⟨-1e-7, 0.1⟩, none⟩].map some := by
      decide +kernel
    obtain ⟨batch, hbatch, -⟩ := (ofBytes_reports.1 ⟨[], .forward⟩ _).1 _ hparsed
    exact ⟨batch, hbatch, (ofBytes_reports.2 _ _ batch hbatch).trans hparsed⟩

end Batch

end Georef
