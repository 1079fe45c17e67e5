import Georef.Proofs.SameBytes
import Georef.Proofs.Source.KeptOrder
import Georef.Tiff.Image

/-!
# Files that are read repeatedly

The directories of an open file can be asked for in three ways: all of them, the first one, and
the one at a given position. All questions are put to one cursor, and each leaves it somewhere, a
failing one in the middle of what it could not read. Nothing of this is seen by the questions that
come after: an answer depends on the bytes of the file and on the question, and so it is the answer
of a file that has just been opened, however the bytes of either are handed out.

What carries this is the byte order. Everything else that a question needs it brings along, since it
begins by moving to a position; the order is found at the start of the file, and has to be kept.

The module introduces:

* `Delivery` — the ways bytes are handed out; `OpenTiff.ofBytes` — opening a file of given bytes.
* `Call`, `OpenTiff.answer`, `OpenTiff.after` — the questions, their answers, and the file behind
  them.
* `OpenTiff.Over data header order file` — the file is over the bytes and reads in the order; it
  stays so after every question.
* `OpenTiff.answers_fresh` — the answers of a file with a history.
-/

namespace Georef

open Cursor (Action KeepsOrder Runs Stands)
open LawfulReader (Serves)

namespace Tiff

/-! ## The byte order is kept -/

section KeptOrder

variable {ρ : Type} [Reader ρ]

theorem keepsOrder_natural (width : Nat) : KeepsOrder (ρ := ρ) (natural width) :=
  .bind (.bytes width) fun _ => .get_bind fun _ => .pure _

omit [Reader ρ] in
/-- Bytes kept apart are read by a cursor of their own. -/
theorem keepsOrder_within {α : Type} (data : Bytes) (action : Action MemoryReader α) :
    KeepsOrder (ρ := ρ) (within data action) :=
  .get_bind fun _ => .ofExcept _

theorem Value.keepsOrder_load (count : Nat) (policy : Terminator) (type : ElementType) :
    KeepsOrder (ρ := ρ) (load count policy type) := by
  have helements : ∀ (α : Type) [FixedWidth α],
      KeepsOrder (ρ := ρ) (Cursor.times count (Cursor.next α)) := fun α => .times (.next α) count
  cases type with
  | byte | undefined => exact .bind (.bytes count) fun _ => .pure _
  | ascii => exact .bind (.text count .latin1 policy) fun _ => .pure _
  | _ => exact .bind (helements _) fun _ => .pure _

theorem Record.keepsOrder_read (layout : Layout) : KeepsOrder (ρ := ρ) (read layout) :=
  .bind (.next UInt16) fun _ => .bind (.next UInt16) fun _ =>
    .bind (keepsOrder_natural _) fun _ => .bind (.bytes _) fun _ => .pure _

theorem Record.keepsOrder_value (options : Options) (type : ElementType) (record : Record) :
    KeepsOrder (ρ := ρ) (record.value options type) := by
  unfold Record.value
  dsimp only
  split
  · exact .throw_bind _ _
  · split
    · exact .bind (keepsOrder_within _ _) fun _ => .pure _
    · refine .get_bind fun cursor => .bind (.ensureRange _ _) fun _ => ?_
      exact .bind (.atOffset (Value.keepsOrder_load _ _ type) _) fun _ => .pure _

theorem Directory.keepsOrder_addRecord (options : Options) (directory : Directory)
    (record : Record) : KeepsOrder (ρ := ρ) (addRecord options directory record) := by
  unfold addRecord
  cases FieldType.ofCode record.code with
  | unknown code => exact .pure _
  | known type => exact .bind (record.keepsOrder_value options type) fun _ => .pure _

theorem Directory.keepsOrder_read (options : Options) (number : Nat) :
    KeepsOrder (ρ := ρ) (read options number) := by
  unfold Directory.read
  refine .bind .here fun offset => .bind (keepsOrder_natural _) fun count => ?_
  dsimp only
  split
  · exact .throw_bind _ _
  · refine .bind .here fun behindCount => .bind (.ensureRange _ _) fun _ => ?_
    refine .bind (.times (Record.keepsOrder_read _) count) fun records => .get_bind fun cursor => ?_
    -- what follows is the same whether the position of the next directory is there or not
    have hrest : ∀ next, KeepsOrder (ρ := ρ) (do
        let behind ← Cursor.here
        let directory ← records.foldlM (addRecord options) { number, offset, next }
        Cursor.seek behind
        return directory) := fun next =>
      .bind .here fun behind => .bind (.foldlM (fun _ _ => keepsOrder_addRecord options _ _) _ _)
        fun directory => .bind (.seek behind) fun _ => .pure directory
    split
    · exact .bind (keepsOrder_natural _) hrest
    · exact .bind (.pure 0) hrest

namespace Header

variable (header : Header)

theorem keepsOrder_directory (number offset : Nat) :
    KeepsOrder (ρ := ρ) (header.directory number offset) :=
  .bind (.seek offset) fun _ => Directory.keepsOrder_read header.options number

theorem keepsOrder_first : KeepsOrder (ρ := ρ) header.first := by
  unfold first
  split
  · exact .throw_bind _ _
  · exact header.keepsOrder_directory 0 _

theorem keepsOrder_follow (room : Nat) (seen : List Nat) (offset : Nat) :
    KeepsOrder (ρ := ρ) (header.follow room seen offset) := by
  induction room generalizing seen offset with
  | zero =>
    unfold follow
    split
    · exact .pure _
    · exact .throw _
  | succ room ih =>
    by_cases hoffset : offset = 0
    · rw [hoffset, follow_end]
      exact .pure _
    by_cases hseen : offset ∈ seen
    · rw [follow_seen hoffset hseen]
      exact .throw _
    · rw [follow_new hoffset hseen]
      exact .bind (header.keepsOrder_directory _ _) fun _ => .bind (ih _ _) fun _ => .pure _

theorem keepsOrder_chain : KeepsOrder (ρ := ρ) header.chain :=
  .bind (header.keepsOrder_follow _ _ _) fun _ => .get_bind fun _ => .pure _

end Header

end KeptOrder

/-! ## Opening -/

/-- How the bytes of a file are handed out. -/
inductive Delivery where
  | memory
  /-- Through a window, at the pace of a store. -/
  | window (capacity : Nat) (pace : Nat → Nat)

/-- A reader at the start of the bytes. -/
def Delivery.reader (data : Bytes) : Delivery → ResourceReader
  | memory => .memory { data }
  | window capacity pace => .buffered (.ofReader capacity { data, pace })

theorem Delivery.serves_reader (data : Bytes) (delivery : Delivery) :
    Serves data 0 (delivery.reader data) := by
  cases delivery with
  | memory => exact ResourceReader.serves_memory ⟨rfl, rfl⟩
  | window capacity pace =>
    have hstream : Serves data 0 ({ data, pace } : StreamReader) := ⟨rfl, rfl⟩
    exact ResourceReader.serves_buffered
      (BufferedReader.serves_ofReader hstream (by decide) capacity)

namespace OpenTiff

/-- Reads the start of a file from a reader. -/
def ofReader (policy : Terminator) (reader : ResourceReader) : Except Error OpenTiff := do
  let cursor ← Cursor.ofReader .little reader
  let (outcome, cursor) := Cursor.run (Header.read policy) cursor
  return { header := ← outcome, cursor }

/-- Reads the start of a file of the given bytes. -/
def ofBytes (policy : Terminator) (data : Bytes) (delivery : Delivery) : Except Error OpenTiff :=
  ofReader policy (delivery.reader data)

/-- A file is opened on the reader that its resource opens. -/
theorem ofResource_eq_bind (policy : Terminator) (resource : Resource) :
    ofResource policy resource = resource.reader >>= ofReader policy := by
  rw [ofResource, Resource.cursor, bind_assoc]
  rfl

/-- `Over data header order file`: the file has the header, its cursor stands somewhere in the
bytes, and it reads in the order. -/
structure Over (data : Bytes) (header : Header) (order : ByteOrder) (file : OpenTiff) : Prop where
  header_eq : file.header = header
  stands : ∃ p, file.cursor.Stands data ⟨order, p⟩

/-- Whether the start of a file is accepted, and what it says, depends on the bytes of the file. -/
theorem ofReader_cases (policy : Terminator) (data : Bytes) :
    (∃ fault, ∀ reader : ResourceReader, Serves data 0 reader →
      ofReader policy reader = .error fault) ∨
    ∃ header order, ∀ reader : ResourceReader, Serves data 0 reader →
      ∃ file, ofReader policy reader = .ok file ∧ file.Over data header order := by
  by_cases hsize : data.size < positionBound
  · obtain ⟨outcome, ⟨order, p⟩, hruns, -⟩ :=
      Header.settles_read (ρ := ResourceReader) policy ⟨.little, 0⟩ (Nat.zero_le data.size)
    -- every reader comes to one outcome, at one place and in one order
    have hread : ∀ reader : ResourceReader, Serves data 0 reader →
        ∃ cursor, ofReader policy reader = (do return { header := ← outcome, cursor }) ∧
          cursor.Stands data ⟨order, p⟩ := by
      intro reader hserves
      obtain ⟨cursor, hcursor, hstands⟩ :=
        Cursor.exists_ofReader_stands hserves (by decide) hsize .little
      obtain ⟨cursor', hrun, hstands'⟩ := hruns cursor hstands
      refine ⟨cursor', ?_, hstands'⟩
      rw [ofReader, hcursor, Except.ok_bind, hrun]
    cases outcome with
    | error fault =>
      refine .inl ⟨fault, fun reader hserves => ?_⟩
      obtain ⟨cursor, hfile, -⟩ := hread reader hserves
      exact hfile
    | ok header =>
      refine .inr ⟨header, order, fun reader hserves => ?_⟩
      obtain ⟨cursor, hfile, hstands⟩ := hread reader hserves
      exact ⟨_, hfile, rfl, p, hstands⟩
  · -- a source that is too long to be counted is refused by every reader
    refine .inl ⟨.io .badPosition, fun reader hserves => ?_⟩
    rw [ofReader, Cursor.ofReader_of_le hserves (Nat.not_lt.1 hsize), Except.error_bind]

end OpenTiff

/-! ## Questions and answers -/

/-- What is asked of an open file. -/
inductive Call where
  | chain
  | first
  | directory (number offset : Nat)

namespace Call

/-- What is given in answer. -/
def Result : Call → Type
  | chain => Decoded
  | first | directory .. => Directory

/-- The reading that answers the question. -/
def action (header : Header) : (call : Call) → Action ResourceReader call.Result
  | chain => header.chain
  | first => header.first
  | directory number offset => header.directory number offset

/-- The answer from a cursor at the start of the bytes in memory. -/
def answer (call : Call) (header : Header) (data : Bytes) (order : ByteOrder) :
    Except Error call.Result :=
  ((Header.memoryCursor data order).run (call.action header)).1

variable (call : Call) (header : Header) (data : Bytes) (order : ByteOrder)

theorem keepsOrder_action : KeepsOrder (call.action header) := by
  cases call with
  | chain => exact header.keepsOrder_chain
  | first => exact header.keepsOrder_first
  | directory number offset => exact header.keepsOrder_directory number offset

/-- One answer is given from all places. -/
theorem exists_runs_action :
    ∃ outcome, ∀ p, ∃ finish, Runs data ⟨order, p⟩ (call.action header) outcome finish := by
  have hdirectory : ∀ number offset, ∃ outcome, ∀ p, ∃ finish,
      Runs (ρ := ResourceReader) data ⟨order, p⟩ (header.directory number offset) outcome
        finish := by
    intro number offset
    refine ⟨header.decode data order number offset, fun p => ?_⟩
    obtain ⟨finish, hrun, -⟩ := header.exists_runs_directory data order number offset p
    exact ⟨finish, hrun⟩
  cases call with
  | directory number offset => exact hdirectory number offset
  | first =>
    show ∃ outcome, ∀ p, ∃ finish, Runs data ⟨order, p⟩ header.first outcome finish
    unfold Header.first
    split
    · exact ⟨_, fun p => ⟨_, (Runs.throw _).bind_error⟩⟩
    · exact hdirectory 0 header.firstOffset
  | chain =>
    -- the chain of the directories has one end, from wherever it is followed
    obtain ⟨outcome, -, hends, -⟩ := header.exists_runs_chain data order 0
    refine ⟨outcome.map fun directories =>
      { order, layout := header.options.layout, directories }, fun p => ?_⟩
    obtain ⟨outcome', finish, hends', hrun⟩ := header.exists_runs_chain data order p
    obtain rfl := hends.unique (header.faithful_decode data order) hends'
    exact ⟨finish, hrun⟩

/-- Wherever the cursor stands, the answer is the same, and it reads on in the same order. -/
theorem run_action {cursor : Cursor ResourceReader} {p : Nat}
    (h : cursor.Stands data ⟨order, p⟩) :
    (cursor.run (call.action header)).1 = call.answer header data order ∧
      ∃ q, (cursor.run (call.action header)).2.Stands data ⟨order, q⟩ := by
  obtain ⟨outcome, hruns⟩ := call.exists_runs_action header data order
  obtain ⟨_, hmemory⟩ := hruns 0
  obtain ⟨_, hanswer, -⟩ := hmemory _ (Header.stands_memoryCursor data order)
  obtain ⟨finish, hrun⟩ := hruns p
  obtain ⟨cursor', hcursor', hstands⟩ := hrun cursor h
  -- the run ends in some order; that it is the same one is known of the action itself
  have horder := call.keepsOrder_action header cursor
  rw [hcursor', hstands.order_eq, h.order_eq] at horder
  rw [answer, hanswer, hcursor']
  refine ⟨rfl, finish.position, ?_⟩
  obtain ⟨_, q⟩ := finish
  obtain rfl := horder
  exact hstands

/-- Where there are no directories there is no first one either. -/
theorem answer_first_of_zero (h : header.firstOffset = 0) :
    first.answer header data order = .error (.format .noDirectories) := by
  have haction : first.action header =
      (throw (.format .noDirectories) : Action ResourceReader Directory) := by
    show header.first = _
    rw [Header.first, if_pos h]
    rfl
  rw [answer, haction]
  rfl

/-- The first directory is the one at the position that the file starts with. -/
theorem answer_first_of_ne (h : header.firstOffset ≠ 0) :
    first.answer header data order = header.decode data order 0 header.firstOffset := by
  have haction : first.action header = header.directory 0 header.firstOffset := by
    show header.first = _
    rw [Header.first, if_neg h]
  rw [answer, haction]
  rfl

variable {header data order}

/-- Where the chain is read, it is a tidy walk to zero. -/
theorem walk_of_answer_chain {tiff : Decoded} (h : chain.answer header data order = .ok tiff) :
    Walk (header.decode data order) header.firstOffset tiff.directories 0 := by
  obtain ⟨outcome, finish, hends, hruns⟩ := header.exists_runs_chain data order 0
  obtain ⟨cursor', hrun, -⟩ := hruns _ (Header.stands_memoryCursor data order)
  have hanswer : chain.answer header data order = outcome.map fun directories =>
      { order, layout := header.options.layout, directories } := congrArg Prod.fst hrun
  rw [hanswer] at h
  cases outcome with
  | error fault => cases h
  | ok directories =>
    cases h
    exact hends.walk.1

/-- The first directory is the first one of the chain, where the chain is read. -/
theorem answer_first_of_chain {tiff : Decoded} (h : chain.answer header data order = .ok tiff) :
    (tiff.directories = [] →
      first.answer header data order = .error (.format .noDirectories)) ∧
    ∀ directory rest, tiff.directories = directory :: rest →
      first.answer header data order = .ok directory := by
  have hwalk := walk_of_answer_chain h
  constructor
  · intro hnone
    rw [hnone] at hwalk
    exact answer_first_of_zero _ _ _ (hwalk.unique .nil rfl).2.symm
  · intro directory rest hsome
    rw [hsome] at hwalk
    obtain ⟨offset, hoffset, hshort, hdecode⟩ := hwalk.getElem (Nat.zero_lt_succ rest.length)
    -- a walk of no directories has not left the position that the file starts with
    obtain rfl : offset = header.firstOffset := (hshort.unique .nil rfl).2
    rw [answer_first_of_ne _ _ _ hoffset]
    exact hdecode

end Call

namespace OpenTiff

/-- The answer that the file gives now. -/
def answer (file : OpenTiff) (call : Call) : Except Error call.Result :=
  (file.run call.action).1

/-- The file after a question, also after one that was not answered. -/
def after (file : OpenTiff) (call : Call) : OpenTiff :=
  (file.run call.action).2

/-- The file after a number of questions. -/
def afterAll (file : OpenTiff) (calls : List Call) : OpenTiff :=
  calls.foldl after file

variable {policy : Terminator} {data : Bytes} {header : Header} {order : ByteOrder}
  {file : OpenTiff}

namespace Over

/-- An answer depends on the header, the bytes and the order. -/
theorem answer_eq (h : file.Over data header order) (call : Call) :
    file.answer call = call.answer header data order := by
  obtain ⟨rfl, p, hstands⟩ := h
  exact (call.run_action _ data order hstands).1

/-- No question changes these. -/
theorem after (h : file.Over data header order) (call : Call) :
    (file.after call).Over data header order := by
  obtain ⟨rfl, p, hstands⟩ := h
  exact ⟨rfl, (call.run_action _ data order hstands).2⟩

theorem afterAll (h : file.Over data header order) (calls : List Call) :
    (file.afterAll calls).Over data header order := by
  induction calls generalizing file with
  | nil => exact h
  | cons call calls ih => exact ih (h.after call)

end Over

/-- The image of a resource is the one that the first directory of its bytes describes. -/
theorem image_ofResource_eq {α : Type} [Scalar α] {resource : Resource}
    (hbytes : resource.bytes = .ok data)
    (hopened : ∀ reader : ResourceReader, Serves data 0 reader →
      ∃ file, ofReader policy reader = .ok file ∧ file.Over data header order) :
    (Image.ofResource policy resource : Except Error (Image α)) =
      Call.first.answer header data order >>= Image.ofDirectory resource.name := by
  obtain ⟨reader, hreader, hserves⟩ := Resource.exists_reader_serves hbytes
  obtain ⟨file, hfile, hover⟩ := hopened reader hserves
  have hfirst : (file.run Header.first).1 = Call.first.answer header data order :=
    hover.answer_eq .first
  rw [Image.ofResource, ofResource_eq_bind, hreader, Except.ok_bind, hfile, Except.ok_bind, hfirst]
  rfl

/-- Whatever has been asked of a file, and whether it was answered or not, every question has the
answer of a file that has just been opened on the same bytes, however the bytes of either are handed
out. If all directories are given in answer and there are some, then the first of them is the first
directory, and the one that images are taken from; if there are none, then there is no first one
either. -/
theorem answers_fresh {first : Delivery} (h : ofBytes policy data first = .ok file) :
    (∀ second : Delivery, ∃ fresh, ofBytes policy data second = .ok fresh ∧
      ∀ calls call, (file.afterAll calls).answer call = fresh.answer call) ∧
    ∀ (calls : List Call) (tiff : Decoded), (file.afterAll calls).answer .chain = .ok tiff →
      (tiff.directories = [] →
        ∀ others, (file.afterAll others).answer .first = .error (.format .noDirectories)) ∧
      ∀ directory rest, tiff.directories = directory :: rest →
        (∀ others, (file.afterAll others).answer .first = .ok directory) ∧
        ∀ resource : Resource, resource.bytes = .ok data → ∀ (α : Type) [Scalar α],
          (Image.ofResource policy resource : Except Error (Image α)) =
            Image.ofDirectory resource.name directory := by
  obtain ⟨fault, hrefused⟩ | ⟨header, order, hopened⟩ := ofReader_cases policy data
  · have hfault := hrefused _ (first.serves_reader data)
    rw [ofBytes, hfault] at h
    cases h
  -- the file is one of those that readers of the bytes are opened to
  have hover : file.Over data header order := by
    obtain ⟨file', hfile', hover⟩ := hopened _ (first.serves_reader data)
    obtain rfl : file' = file := Except.ok.inj (hfile'.symm.trans h)
    exact hover
  have hanswer : ∀ calls call, (file.afterAll calls).answer call = call.answer header data order :=
    fun calls call => (hover.afterAll calls).answer_eq call
  refine ⟨fun second => ?_, fun calls tiff hchain => ?_⟩
  · obtain ⟨fresh, hfresh, hover'⟩ := hopened _ (second.serves_reader data)
    exact ⟨fresh, hfresh, fun calls call => by rw [hanswer, hover'.answer_eq]⟩
  · rw [hanswer] at hchain
    obtain ⟨hnone, hsome⟩ := Call.answer_first_of_chain hchain
    refine ⟨fun hempty others => (hanswer others .first).trans (hnone hempty), ?_⟩
    intro directory rest hdirectories
    have hfirst := hsome directory rest hdirectories
    refine ⟨fun others => (hanswer others .first).trans hfirst, fun resource hbytes α _ => ?_⟩
    rw [image_ofResource_eq hbytes hopened, hfirst]
    rfl

/-- After a directory that is not there and after the whole chain, the sample read through a window
of four bytes has the first directory that it has in memory. -/
theorem answers_fresh_sample :
    ∃ file fresh, ofBytes .preserve sampleFile (.window 4 fun _ => 3) = .ok file ∧
      ofBytes .preserve sampleFile .memory = .ok fresh ∧
      (file.afterAll [.directory 0 3, .chain]).answer .first = fresh.answer .first := by
  have haccepted : (ofBytes .preserve sampleFile (.window 4 fun _ => 3)).toOption.isSome := by
    decide +kernel
  cases hfile : ofBytes .preserve sampleFile (.window 4 fun _ => 3) with
  | error fault =>
    rw [hfile] at haccepted
    cases haccepted
  | ok file =>
    obtain ⟨fresh, hfresh, hanswers⟩ := (answers_fresh hfile).1 .memory
    exact ⟨file, fresh, rfl, hfresh, hanswers _ _⟩

end OpenTiff

end Tiff

end Georef
