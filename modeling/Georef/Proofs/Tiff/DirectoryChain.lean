import Georef.Proofs.Source.Opening
import Georef.Proofs.Source.Settling
import Georef.Proofs.Tiff.DirectoryWalks
import Georef.Proofs.Tiff.StoredDirectory

/-!
# Reading the chain of a file

The directories of a file are read one after the other, as long as there is room for another one at
a position that is new. What comes of it depends on the bytes alone and not on how they are read, on
what was read before, or on where the cursor has been left.

The module introduces:

* `Header.decode header data order number offset` — the outcome of reading a directory from memory,
  a `Faithful` one.
* `OpenTiff.run_chain` — reading a chain succeeds exactly on the tidy walks to zero, and gives their
  directories; it fails exactly where a tidy walk halts otherwise.
-/

namespace Georef.Tiff

open Cursor (Action Place Runs Settles Stands)

/-! ## Directories of a file -/

namespace Directory

@[simp]
theorem number_insert (directory : Directory) (entry : Entry) :
    (directory.insert entry).1.number = directory.number := by
  unfold insert
  split <;> rfl

@[simp]
theorem offset_insert (directory : Directory) (entry : Entry) :
    (directory.insert entry).1.offset = directory.offset := by
  unfold insert
  split <;> rfl

/-- Entering records changes neither the number of a directory nor its position. -/
theorem number_offset_foldl_enter (options : Options) (data : Bytes) (order : ByteOrder)
    (records : List Record) (directory : Directory) :
    (records.foldl (enter options data order) directory).number = directory.number ∧
      (records.foldl (enter options data order) directory).offset = directory.offset := by
  induction records generalizing directory with
  | nil => exact ⟨rfl, rfl⟩
  | cons record records ih =>
    have hone : (enter options data order directory record).number = directory.number ∧
        (enter options data order directory record).offset = directory.offset := by
      unfold enter
      split <;> simp [warn]
    rw [List.foldl_cons, (ih _).1, (ih _).2]
    exact hone

end Directory

namespace Header

/-- A cursor at the start of bytes in memory. -/
def memoryCursor (data : Bytes) (order : ByteOrder) : Cursor ResourceReader where
  reader := .memory { data }
  order := order
  position := 0
  length := data.size

/-- The outcome of reading the directory at a position from memory. -/
def decode (header : Header) (data : Bytes) (order : ByteOrder) (number offset : Nat) :
    Except Error Directory :=
  ((memoryCursor data order).run (header.directory number offset)).1

variable {header : Header} {data : Bytes} {order : ByteOrder} {number offset : Nat}

theorem stands_memoryCursor (data : Bytes) (order : ByteOrder) :
    (memoryCursor data order).Stands data ⟨order, 0⟩ :=
  ⟨⟨rfl, rfl⟩, rfl, rfl, rfl⟩

/-- What the reading of a directory comes to is what it comes to in memory. -/
theorem decode_eq_of_runs {outcome : Except Error Directory} {finish : Place}
    (h : Runs (ρ := ResourceReader) data ⟨order, 0⟩ (header.directory number offset) outcome
      finish) :
    header.decode data order number offset = outcome := by
  obtain ⟨cursor', hrun, -⟩ := h _ (stands_memoryCursor data order)
  rw [decode, hrun]

/-- A directory that is there is read from anywhere. -/
theorem runs_directory (header : Header) (number : Nat)
    (h : Readable header.options data ⟨order, offset⟩) (p : Nat) :
    Runs (ρ := ResourceReader) data ⟨order, p⟩ (header.directory number offset)
      (.ok (Directory.stored header.options number data ⟨order, offset⟩))
      (placeBehind header.options.layout data ⟨order, offset⟩) := by
  have hinside : offset + header.options.layout.countWidth ≤ data.size := h.count_inside
  exact (Runs.seek (by omega)).bind (Runs.readDirectory header.options number h)

/-- A directory that is not there is refused in one way from anywhere. -/
theorem exists_runs_directory_error (header : Header) (number : Nat)
    (h : ¬Readable header.options data ⟨order, offset⟩) :
    ∃ fault, ∀ p, ∃ finish, Runs (ρ := ResourceReader) data ⟨order, p⟩
      (header.directory number offset) (.error fault) finish := by
  by_cases hoffset : offset ≤ data.size
  · obtain ⟨fault, finish, hread⟩ :=
      Runs.readDirectory_of_not_readable (ρ := ResourceReader) header.options number h
    exact ⟨fault, fun p => ⟨finish, (Runs.seek hoffset).bind hread⟩⟩
  · exact ⟨.badOffset offset, fun p => ⟨_, (Runs.seek_of_lt (by omega)).bind_error⟩⟩

/-- A directory decodes if it is there, and is then the stored one. -/
theorem decode_eq_ok_iff {directory : Directory} :
    header.decode data order number offset = .ok directory ↔
      Readable header.options data ⟨order, offset⟩ ∧
        directory = Directory.stored header.options number data ⟨order, offset⟩ := by
  by_cases h : Readable header.options data ⟨order, offset⟩
  · rw [decode_eq_of_runs (header.runs_directory number h 0)]
    simp [h, eq_comm]
  · obtain ⟨fault, hruns⟩ := header.exists_runs_directory_error number h
    obtain ⟨finish, hrun⟩ := hruns 0
    rw [decode_eq_of_runs hrun]
    simp [h]

/-- What is decoded carries its number and its position. -/
theorem faithful_decode (header : Header) (data : Bytes) (order : ByteOrder) :
    Faithful (header.decode data order) := by
  intro number offset directory hdecode
  obtain ⟨-, rfl⟩ := decode_eq_ok_iff.1 hdecode
  exact Directory.number_offset_foldl_enter ..

/-- From anywhere a directory is read as from memory, and the byte order stays. -/
theorem exists_runs_directory (header : Header) (data : Bytes) (order : ByteOrder)
    (number offset p : Nat) :
    ∃ finish, Runs (ρ := ResourceReader) data ⟨order, p⟩ (header.directory number offset)
        (header.decode data order number offset) finish ∧
      ((∃ directory, header.decode data order number offset = .ok directory) →
        finish.order = order) := by
  by_cases h : Readable header.options data ⟨order, offset⟩
  · rw [decode_eq_of_runs (header.runs_directory number h 0)]
    exact ⟨_, header.runs_directory number h p, fun _ => rfl⟩
  · obtain ⟨fault, hruns⟩ := header.exists_runs_directory_error number h
    obtain ⟨_, hmemory⟩ := hruns 0
    obtain ⟨finish, hrun⟩ := hruns p
    rw [decode_eq_of_runs hmemory]
    exact ⟨finish, hrun, nofun⟩

/-! ## The chain of a file -/

section Follow

variable {ρ : Type} [Reader ρ] {seen : List Nat} {room : Nat}

/-- Zero ends the chain, whether there is room or not. -/
theorem follow_end (header : Header) (room : Nat) (seen : List Nat) :
    (header.follow room seen 0 : Action ρ (List Directory)) = pure [] := by
  cases room <;> simp [follow]

theorem follow_full (hoffset : offset ≠ 0) :
    (header.follow 0 seen offset : Action ρ (List Directory)) =
      throw (.format .tooManyDirectories) := by
  simp [follow, hoffset]

theorem follow_seen (hoffset : offset ≠ 0) (hseen : offset ∈ seen) :
    (header.follow (room + 1) seen offset : Action ρ (List Directory)) =
      throw (.format (.directoryLoop offset)) := by
  rw [follow, if_neg hoffset]
  dsimp only
  rw [if_pos (List.contains_iff_mem.2 hseen)]
  rfl

theorem follow_new (hoffset : offset ≠ 0) (hnew : offset ∉ seen) :
    (header.follow (room + 1) seen offset : Action ρ (List Directory)) = do
      let directory ← header.directory seen.length offset
      let rest ← header.follow room (offset :: seen) directory.next
      return directory :: rest := by
  rw [follow, if_neg hoffset]
  dsimp only
  rw [if_neg (mt List.contains_iff_mem.1 hnew)]

end Follow

/-- Following the chain after a tidy walk ends as the chain does. The positions of the walk are the
ones that have been seen. -/
theorem exists_runs_follow {first : Nat} {done : List Directory} {seen : List Nat} {room p : Nat}
    (hwalk : Walk (header.decode data order) first done offset) (htidy : Tidy done)
    (hseen : seen = (done.map Directory.offset).reverse)
    (hroom : done.length + room = maxDirectories) :
    ∃ outcome finish,
      Runs (ρ := ResourceReader) data ⟨order, p⟩ (header.follow room seen offset) outcome finish ∧
        Ends (header.decode data order) first (outcome.map (done ++ ·)) ∧
        ((∃ rest, outcome = .ok rest) → finish.order = order) := by
  -- room is used up by one for each directory, while the walk so far grows at its end
  induction room generalizing done seen offset p with
  | zero =>
    by_cases hoffset : offset = 0
    · subst hoffset
      rw [follow_end]
      exact ⟨_, _, .pure [], hwalk.ends htidy, fun _ => rfl⟩
    · rw [follow_full hoffset]
      exact ⟨_, _, .throw _, ⟨done, offset, hwalk, htidy, .tooMany hoffset (by omega)⟩, nofun⟩
  | succ room ih =>
    by_cases hoffset : offset = 0
    · subst hoffset
      rw [follow_end]
      exact ⟨_, _, .pure [], hwalk.ends htidy, fun _ => rfl⟩
    have hleft : done.length < maxDirectories := by omega
    have hlength : seen.length = done.length := by
      rw [hseen, List.length_reverse, List.length_map]
    have hmem : offset ∈ seen ↔ offset ∈ done.map Directory.offset := by
      rw [hseen, List.mem_reverse]
    by_cases hold : offset ∈ seen
    · rw [follow_seen hoffset hold]
      exact ⟨_, _, .throw _,
        ⟨done, offset, hwalk, htidy, .loop hoffset hleft (hmem.1 hold)⟩, nofun⟩
    have hnew : offset ∉ done.map Directory.offset := mt hmem.2 hold
    rw [follow_new hoffset hold, hlength]
    obtain ⟨⟨order', q⟩, hrun, horder⟩ :=
      header.exists_runs_directory data order done.length offset p
    cases hdecode : header.decode data order done.length offset with
    | error fault =>
      rw [hdecode] at hrun
      exact ⟨_, _, hrun.bind_error,
        ⟨done, offset, hwalk, htidy, .undecodable hoffset hleft hnew hdecode⟩, nofun⟩
    | ok directory =>
      -- the walk goes on by one directory, at a position that has now been seen too
      rw [hdecode] at hrun
      obtain rfl : order' = order := horder ⟨directory, hdecode⟩
      obtain ⟨-, hplaced⟩ := header.faithful_decode data order' hdecode
      have hseen' : offset :: seen = ((done ++ [directory]).map Directory.offset).reverse := by
        simp [hseen, hplaced]
      have hroom' : (done ++ [directory]).length + room = maxDirectories := by
        rw [List.length_append, List.length_singleton]
        omega
      obtain ⟨outcome, finish, hrest, hends, hfinish⟩ :=
        ih (p := q) (hwalk.snoc hoffset hdecode) (htidy.snoc (hplaced ▸ hnew) hleft) hseen' hroom'
      refine ⟨outcome.map (directory :: ·), finish, hrun.bind (hrest.bind_pure _), ?_, ?_⟩
      · cases outcome with
        | error fault => exact hends
        | ok rest =>
          rw [Except.map, List.append_assoc, List.singleton_append] at hends
          exact hends
      · rintro ⟨_, hmap⟩
        obtain ⟨reached, hreached, -⟩ := Except.map_eq_ok_iff.1 hmap
        exact hfinish ⟨reached, hreached⟩

/-- Reading the chain ends as the chain does, with the byte order and the layout of the file. -/
theorem exists_runs_chain (header : Header) (data : Bytes) (order : ByteOrder) (p : Nat) :
    ∃ outcome finish, Ends (header.decode data order) header.firstOffset outcome ∧
      Runs (ρ := ResourceReader) data ⟨order, p⟩ header.chain
        (outcome.map fun directories =>
          { order, layout := header.options.layout, directories }) finish := by
  have hwalk : Walk (header.decode data order) header.firstOffset [] header.firstOffset := .nil
  have htidy : Tidy [] := ⟨Nat.zero_le _, List.nodup_nil⟩
  obtain ⟨outcome, finish, hrun, hends, horder⟩ :=
    exists_runs_follow (p := p) hwalk htidy rfl (Nat.zero_add maxDirectories)
  refine ⟨outcome, finish, ?_, ?_⟩
  · cases outcome <;> exact hends
  · cases outcome with
    | error fault => exact hrun.bind_error
    | ok directories =>
      refine hrun.bind (Runs.get_bind fun cursor hcursor => ?_)
      rw [hcursor.order_eq, horder ⟨directories, rfl⟩]
      exact .pure _

end Header

/-! ## Open files -/

section Start

variable {ρ : Type} [Reader ρ] [LawfulReader ρ] {data : Bytes}

theorem settles_natural (width : Nat) : Settles (ρ := ρ) data (natural width) := by
  intro start hstart
  by_cases h : start.position + width ≤ data.size
  · exact ⟨_, _, Runs.natural h, h⟩
  · exact ⟨_, _, Runs.natural_of_lt (by omega), hstart⟩

/-- The start of a file is read or refused alike from every cursor at one place. -/
theorem Header.settles_read (policy : Terminator) :
    Settles (ρ := ρ) data (Header.read policy) := by
  have hnumber : Settles (ρ := ρ) data (Cursor.next UInt16) := .operation (.next UInt16)
  unfold Header.read
  refine .bind (.operation (.bytes 2)) fun marker => ?_
  dsimp only
  cases ByteOrder.ofMarker? marker.toList with
  | none => exact .throw_bind _ _
  | some order =>
    refine .bind (.operation (.setOrder order)) fun _ => ?_
    refine .bind hnumber fun magic => .bind (.ofExcept _) fun layout => ?_
    -- only the large layout gives the width of positions
    split
    · refine .bind hnumber fun width => ?_
      split
      · exact .throw_bind _ _
      · exact .bind hnumber fun _ => .bind (settles_natural _) fun _ => .pure _
    · exact .bind (settles_natural _) fun _ => .pure _

end Start

namespace OpenTiff

variable {policy : Terminator} {resource : Resource} {file : OpenTiff}

/-- The cursor of an open file stands somewhere in the bytes of its resource. -/
theorem exists_stands (h : ofResource policy resource = .ok file) :
    ∃ data p, resource.bytes = .ok data ∧ p ≤ data.size ∧
      file.cursor.Stands data ⟨file.order, p⟩ := by
  obtain ⟨cursor, hcursor, hread⟩ := Except.bind_eq_ok_iff.1 h
  obtain ⟨data, hdata, hstands⟩ := Resource.exists_bytes_of_cursor hcursor
  obtain ⟨outcome, ⟨order, p⟩, hrun, hp⟩ :=
    Header.settles_read (ρ := ResourceReader) policy ⟨.little, 0⟩ (Nat.zero_le data.size)
  obtain ⟨cursor', hcursor', hstands'⟩ := hrun cursor hstands
  rw [hcursor'] at hread
  obtain ⟨header, -, hfile⟩ := Except.bind_eq_ok_iff.1 hread
  cases hfile
  refine ⟨data, p, hdata, hp, ?_⟩
  show cursor'.Stands data ⟨cursor'.order, p⟩
  rw [hstands'.order_eq]
  exact hstands'

/-- Reading the directories of an open file ends as the chain of its directories does. -/
theorem exists_ends_run_chain (h : ofResource policy resource = .ok file) :
    ∃ data outcome, resource.bytes = .ok data ∧
      Ends (file.header.decode data file.order) file.header.firstOffset outcome ∧
      (file.run Header.chain).1 = outcome.map fun directories =>
        { order := file.order, layout := file.header.options.layout, directories } := by
  obtain ⟨data, p, hdata, -, hstands⟩ := exists_stands h
  obtain ⟨outcome, finish, hends, hrun⟩ := file.header.exists_runs_chain data file.order p
  obtain ⟨cursor', hchain, -⟩ := hrun _ hstands
  refine ⟨data, outcome, hdata, hends, ?_⟩
  rw [run, hchain]

/-- The directories of an open file are read exactly if the chain ends after at most as many as are
allowed, each of which decodes, at different positions. They are then given in order. In every other
case the reading fails where the chain halts: for want of room, at a position where it has been, or
as the decoding of the directory there does. Every directory on the way carries its number and its
position. -/
theorem run_chain (h : ofResource policy resource = .ok file) :
    ∃ data, resource.bytes = .ok data ∧
      (∀ tiff, (file.run Header.chain).1 = .ok tiff ↔
        tiff.order = file.order ∧ tiff.layout = file.header.options.layout ∧
          Walk (file.header.decode data file.order) file.header.firstOffset tiff.directories 0 ∧
          Tidy tiff.directories) ∧
      (∀ fault, (file.run Header.chain).1 = .error fault ↔
        ∃ directories reached,
          Walk (file.header.decode data file.order) file.header.firstOffset directories reached ∧
            Tidy directories ∧
            Halts (file.header.decode data file.order) directories reached (.error fault)) ∧
      ∀ directories reached,
        Walk (file.header.decode data file.order) file.header.firstOffset directories reached →
        ∀ (i : Nat) (hi : i < directories.length),
          directories[i].number = i ∧
            file.header.decode data file.order i directories[i].offset = .ok directories[i] := by
  obtain ⟨data, outcome, hdata, hends, hchain⟩ := exists_ends_run_chain h
  have hfaithful : Faithful (file.header.decode data file.order) :=
    file.header.faithful_decode data file.order
  refine ⟨data, hdata, fun tiff => ?_, fun fault => ?_, fun directories reached hwalk i hi => ?_⟩
  · rw [hchain]
    constructor
    · intro htiff
      obtain ⟨directories, rfl, -⟩ := Except.map_eq_ok_iff.1 htiff
      obtain ⟨hwalk, htidy⟩ := hends.walk
      cases htiff
      exact ⟨rfl, rfl, hwalk, htidy⟩
    · rintro ⟨horder, hlayout, hwalk, htidy⟩
      rw [hends.unique hfaithful ⟨tiff.directories, 0, hwalk, htidy, .complete⟩]
      show Except.ok _ = Except.ok tiff
      rw [← horder, ← hlayout]
  · rw [hchain]
    constructor
    · intro hfault
      cases outcome with
      | ok directories => cases hfault
      | error _ =>
        cases hfault
        exact hends
    · rintro ⟨directories, reached, hwalk, htidy, hhalts⟩
      rw [hends.unique hfaithful ⟨directories, reached, hwalk, htidy, hhalts⟩]
      rfl
  · obtain ⟨offset, -, -, hdecode⟩ := hwalk.getElem hi
    obtain ⟨hnumber, hoffset⟩ := hfaithful hdecode
    exact ⟨hnumber, hoffset ▸ hdecode⟩

/-- A file of two directories without entries; the first one is stored behind the second. -/
def sampleFile : Bytes := #[
  0x49, 0x49, 42, 0, 14, 0, 0, 0,
  0, 0, 0, 0, 0, 0,
  0, 0, 8, 0, 0, 0]

/-- The chain of the sample is read in the order of the chain. -/
theorem run_chain_sample :
    ∃ file tiff, ofResource .preserve (.memory "sample" sampleFile) = .ok file ∧
      (file.run Header.chain).1 = .ok tiff ∧
      tiff.directories.map (fun directory => (directory.number, directory.offset, directory.next)) =
        [(0, 14, 8), (1, 8, 0)] := by
  let header : Header :=
    { options := { layout := .classic, policy := .preserve }, firstOffset := 14 }
  have hopened : (ofResource .preserve (.memory "sample" sampleFile)).toOption.map
      (fun file => (file.header, file.order)) = some (header, .little) := by
    decide +kernel
  let front : Directory := { number := 0, offset := 14, next := 8 }
  let back : Directory := { number := 1, offset := 8, next := 0 }
  have hwalk : Walk (header.decode sampleFile .little) 14 [front, back] 0 := by
    have hfirst : Walk (header.decode sampleFile .little) 14 [front] 8 :=
      .snoc .nil (by decide) (by decide +kernel)
    exact hfirst.snoc (by decide) (by decide +kernel)
  cases hfile : ofResource .preserve (.memory "sample" sampleFile) with
  | error fault =>
    rw [hfile] at hopened
    cases hopened
  | ok file =>
    rw [hfile] at hopened
    obtain ⟨hheader, horder⟩ := Prod.mk.inj (Option.some.inj hopened)
    obtain ⟨data, hdata, hok, -⟩ := run_chain hfile
    obtain rfl : sampleFile = data := Except.ok.inj hdata
    rw [hheader, horder] at hok
    let tiff : Decoded := { order := .little, layout := .classic, directories := [front, back] }
    exact ⟨file, tiff, rfl, (hok tiff).2 ⟨rfl, rfl, hwalk, by decide, by decide⟩, rfl⟩

end OpenTiff

end Georef.Tiff
