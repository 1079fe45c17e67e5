import Georef.Proofs.GridFile.Records
import Mathlib

/-!
# Headers that are read as they were written

The module introduces:

* `Units.keyword` — the name of a unit in upper case; `Units.ofName_eq_ok_iff` — a unit is known by
  that name in any letter case.
* `StoredFile.overview` — what is found in the header of a written file; `takes_overview` and
  `refuses_overview` say when it is found.
* `takes_header` — the header of a sub-grid is found as it was written.
-/

namespace Georef.GridFile

open Cursor (Takes Refuses)

/-! ## Units -/

namespace Units

/-- The name of a unit in upper case. -/
def keyword : Units → String
  | seconds => "SECONDS"
  | minutes => "MINUTES"
  | degrees => "DEGREES"

/-- A unit is known by its name in any letter case. -/
theorem ofName_eq_ok_iff {name : String} {units : Units} :
    ofName name = .ok units ↔ String.ofList (name.toList.map Char.toUpper) = units.keyword := by
  rw [ofName]
  generalize String.ofList (name.toList.map Char.toUpper) = upper
  -- the names are tried in turn, and differ from each other
  by_cases hseconds : upper = "SECONDS"
  · rw [if_pos hseconds, hseconds]
    cases units <;> simp [keyword]
  · rw [if_neg hseconds]
    by_cases hminutes : upper = "MINUTES"
    · rw [if_pos hminutes, hminutes]
      cases units <;> simp [keyword]
    · rw [if_neg hminutes]
      by_cases hdegrees : upper = "DEGREES"
      · rw [if_pos hdegrees, hdegrees]
        cases units <;> simp [keyword]
      · rw [if_neg hdegrees]
        cases units <;> simp [keyword, hseconds, hminutes, hdegrees]

end Units

/-- Letters have seven bits, in upper case and in lower case. -/
theorem toNat_lt_of_toUpper {c : Char} (h : c.toUpper.toNat < 128) : c.toNat < 128 := by
  by_cases hlower : c.isLower
  · have hz : c.val ≤ 'z'.val := of_decide_eq_true (Bool.and_eq_true_iff.1 hlower).2
    rw [UInt32.le_iff_toNat_le] at hz
    exact Nat.lt_of_le_of_lt hz (by decide)
  · rwa [Char.toUpper_eq_of_not_isLower hlower] at h

/-- The name of a unit can be stored in any letter case. -/
theorem storable_of_toUpper {name : String} {units : Units}
    (h : String.ofList (name.toList.map Char.toUpper) = units.keyword) : Storable name := by
  -- letters keep their number and stay letters in upper case
  have hkeyword : Storable units.keyword := by
    cases units <;> decide
  have hlist : name.toList.map Char.toUpper = units.keyword.toList := by
    rw [← h, String.toList_ofList]
  refine ⟨fun c hc => ?_, ?_, fun c hc => ?_⟩
  · exact toNat_lt_of_toUpper (hkeyword.1 _ (hlist ▸ List.mem_map_of_mem hc))
  · have hlength := hkeyword.2.1
    rwa [← hlist, List.length_map] at hlength
  · have hlast : units.keyword.toList.getLast? = some c.toUpper := by
      rw [← hlist, List.getLast?_map, hc]
      rfl
    obtain ⟨hnul, hspace⟩ := hkeyword.2.2 _ hlast
    constructor
    · rintro rfl
      exact hnul rfl
    · rintro rfl
      exact hspace rfl

/-! ## Files that can be written -/

/-- The texts of a header can be stored, and so can the number of nodes. -/
structure SubGridHeader.Writable (header : SubGridHeader) : Prop where
  name : Storable header.name
  parent : Storable header.parent
  created : Storable header.created
  updated : Storable header.updated
  le_count : -2 ^ 31 ≤ header.count
  count_lt : header.count < 2 ^ 31

/-- The header of a sub-grid can be stored and declares the nodes behind it. -/
structure StoredSubGrid.Writable (grid : StoredSubGrid) : Prop where
  header : grid.header.Writable
  count_eq : grid.header.count = grid.nodes.length

/-- The texts in a file can be stored, and its angles are in the given unit. -/
structure StoredFile.Writable (file : StoredFile) (units : Units) : Prop where
  unitName : String.ofList (file.unitName.toList.map Char.toUpper) = units.keyword
  version : Storable file.version
  source : Storable file.source
  target : Storable file.target
  grids : ∀ grid ∈ file.grids, grid.Writable

/-! ## The header of a file -/

variable {ρ : Type} [Reader ρ] [LawfulReader ρ] {order : ByteOrder}

theorem takes_readHeaderLength {label : String} (h : Storable label) :
    Takes (ρ := ρ) order (integerRecord order label (Int32.ofNat headerRecords))
      (Overview.readHeaderLength label) ⟨⟩ := by
  refine (takes_readInteger h _).bind_end ?_
  -- the number that is written is the one that is asked for
  rw [if_neg (by decide)]
  exact Takes.pure _

/-- What is found in the header of a written file. -/
def StoredFile.overview (file : StoredFile) (units : Units) : Overview where
  fileCount := file.fileCount.toInt.toNat
  unitName := file.unitName
  units := units
  version := file.version
  source := file.source
  target := file.target
  sourceMajor := file.sourceMajor
  sourceMinor := file.sourceMinor
  targetMajor := file.targetMajor
  targetMinor := file.targetMinor

variable {file : StoredFile} {units : Units}

/-- The header of a file is read as it was written, if no negative number of sub-grids is declared
in it. -/
theorem takes_overview (h : file.Writable units) (hcount : 0 ≤ file.fileCount.toInt) :
    Takes (ρ := ρ) order (file.header order) Overview.read (file.overview units) := by
  -- records are read in the order in which they were written
  simp only [StoredFile.header, List.append_assoc]
  refine (takes_readHeaderLength (by decide)).bind ?_
  refine (takes_readHeaderLength (by decide)).bind ?_
  refine (takes_readInteger (by decide) _).bind ?_
  rw [if_neg (by omega)]
  refine (takes_readText (by decide) (storable_of_toUpper h.unitName)).bind ?_
  refine (Takes.ofExcept (Units.ofName_eq_ok_iff.2 h.unitName)).bind_nil ?_
  refine (takes_readText (by decide) h.version).bind ?_
  refine (takes_readText (by decide) h.source).bind ?_
  refine (takes_readText (by decide) h.target).bind ?_
  refine (takes_readDouble (by decide) _).bind ?_
  refine (takes_readDouble (by decide) _).bind ?_
  refine (takes_readDouble (by decide) _).bind ?_
  exact (takes_readDouble (by decide) _).bind_end (Takes.pure _)

/-- A negative number of sub-grids is refused. -/
theorem refuses_overview (hcount : file.fileCount.toInt < 0) :
    Refuses (ρ := ρ) order (file.header order) Overview.read
      (.grid (.negativeFileCount file.fileCount.toInt)) := by
  -- two records are read as they were written before the fault is found in the third
  simp only [StoredFile.header, List.append_assoc]
  refine (takes_readHeaderLength (by decide)).bind_refuses ?_
  refine (takes_readHeaderLength (by decide)).bind_refuses ?_
  refine (takes_readInteger (by decide) _).bind_refuses ?_
  rw [if_pos hcount]
  exact (Refuses.throw _).bind

/-! ## The header of a sub-grid -/

namespace SubGridHeader

/-- The bytes of a header behind its first label. -/
def encodeValues (order : ByteOrder) (header : SubGridHeader) : List UInt8 :=
  textField header.name ++ (textRecord "PARENT" header.parent ++
    (textRecord "CREATED" header.created ++ (textRecord "UPDATED" header.updated ++
    (doubleRecord order "S_LAT" header.south ++ (doubleRecord order "N_LAT" header.north ++
    (doubleRecord order "E_LONG" header.east ++ (doubleRecord order "W_LONG" header.west ++
    (doubleRecord order "LAT_INC" header.latStep ++
    (doubleRecord order "LONG_INC" header.lonStep ++
    integerRecord order "GS_COUNT" (Int32.ofInt header.count))))))))))

theorem encode_eq (order : ByteOrder) (header : SubGridHeader) :
    header.encode order = textField "SUB_NAME" ++ header.encodeValues order := by
  rw [encode, encodeValues]
  simp only [textRecord, List.append_assoc]

end SubGridHeader

/-- The header of a sub-grid is read as it was written. -/
theorem takes_header {header : SubGridHeader} (h : header.Writable) :
    Takes (ρ := ρ) order (header.encodeValues order) SubGridHeader.read header := by
  refine (takes_readName h.name).bind ?_
  refine (takes_readText (by decide) h.parent).bind ?_
  refine (takes_readText (by decide) h.created).bind ?_
  refine (takes_readText (by decide) h.updated).bind ?_
  refine (takes_readDouble (by decide) _).bind ?_
  refine (takes_readDouble (by decide) _).bind ?_
  refine (takes_readDouble (by decide) _).bind ?_
  refine (takes_readDouble (by decide) _).bind ?_
  refine (takes_readDouble (by decide) _).bind ?_
  refine (takes_readDouble (by decide) _).bind ?_
  refine (takes_readInteger (by decide) _).bind_end ?_
  -- the number of nodes has 32 bits, so nothing of it was lost when it was written
  rw [Int32.toInt_ofInt_of_le h.le_count h.count_lt]
  exact Takes.pure header

end Georef.GridFile
