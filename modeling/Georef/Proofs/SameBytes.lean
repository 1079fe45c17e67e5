import Georef.Proofs.GridFile.Settling
import Georef.Proofs.Tiff.DirectoryChain

/-!
# Files of the same bytes

A file can be served from memory, as a mapping, or through a window that is filled at the pace of
the store. What is read from it is the same in every case: the same values, and the same failures.
Reading a grid file settles, and so does reading the start of a TIFF file, after which the cursors
stand alike; the directories of the chain are then read alike.

* `GridFile.ofResource_eq`, `Tiff.OpenTiff.bind_run_eq` — resources of the same bytes.
* `Resource.file_read_eq_memory` — files, however they are served, and memory.
-/

namespace Georef

open Cursor (Runs)

variable {first second : Resource}

/-- Grid files of one name and the same bytes are read alike. -/
theorem GridFile.ofResource_eq (α : Type) [Scalar α] (hname : first.name = second.name)
    (hbytes : first.bytes = second.bytes) :
    (ofResource first : Except Error (GridFile α)) = ofResource second := by
  rw [ofResource, ofResource, hname]
  exact Resource.read_eq hbytes .little fun data => settles_read α second.name

namespace Tiff

/-- From every cursor at one place the first directory is read or refused alike. -/
theorem Header.exists_runs_first (header : Header) (data : Bytes) (order : ByteOrder) (p : Nat) :
    ∃ outcome finish, Runs (ρ := ResourceReader) data ⟨order, p⟩ header.first outcome finish := by
  unfold Header.first
  split
  · exact ⟨_, _, (Runs.throw _).bind_error⟩
  · obtain ⟨finish, hrun, -⟩ := header.exists_runs_directory data order 0 header.firstOffset p
    exact ⟨_, finish, hrun⟩

namespace OpenTiff

/-- The starts of TIFF files of the same bytes are refused for the same reason, or they are read
alike and the cursors stand alike behind them. -/
theorem ofResource_alike (h : first.bytes = second.bytes) (policy : Terminator) :
    (∃ fault, ofResource policy first = .error fault ∧ ofResource policy second = .error fault) ∨
      ∃ header cursor cursor', ofResource policy first = .ok ⟨header, cursor⟩ ∧
        ofResource policy second = .ok ⟨header, cursor'⟩ ∧ cursor.Alike cursor' := by
  unfold ofResource
  obtain ⟨fault, hfirst, hsecond⟩ | ⟨cursor, cursor', hfirst, hsecond, halike⟩ :=
    Resource.cursor_alike h .little
  · exact .inl ⟨fault, by rw [hfirst, Except.error_bind], by rw [hsecond, Except.error_bind]⟩
  have hread := halike.run fun data => Header.settles_read policy
  rcases hrun : cursor.run (Header.read policy) with ⟨outcome, reached⟩
  rcases hrun' : cursor'.run (Header.read policy) with ⟨outcome', reached'⟩
  rw [hrun, hrun'] at hread
  obtain ⟨rfl, hreached⟩ := hread
  simp only [hfirst, hsecond, Except.ok_bind, hrun, hrun']
  cases outcome with
  | error fault => exact .inl ⟨fault, rfl, rfl⟩
  | ok header => exact .inr ⟨header, reached, reached', rfl, rfl, hreached⟩

/-- What is read from TIFF files of the same bytes comes to the same, if it does from all cursors at
one place. -/
theorem bind_run_eq {α : Type} (h : first.bytes = second.bytes) (policy : Terminator)
    {action : Header → Cursor.Action ResourceReader α}
    (hruns : ∀ header data order p, ∃ outcome finish,
      Runs data ⟨order, p⟩ (action header) outcome finish) :
    (ofResource policy first >>= fun file => (file.run action).1) =
      (ofResource policy second >>= fun file => (file.run action).1) := by
  obtain ⟨fault, hfirst, hsecond⟩ | ⟨header, cursor, cursor', hfirst, hsecond, halike⟩ :=
    ofResource_alike h policy
  · rw [hfirst, hsecond]
  · rw [hfirst, hsecond, Except.ok_bind, Except.ok_bind]
    obtain ⟨data, place, -, hcursor, hcursor'⟩ := halike
    obtain ⟨outcome, finish, hrun⟩ := hruns header data place.order place.position
    obtain ⟨reached, hreached, -⟩ := hrun cursor hcursor
    obtain ⟨reached', hreached', -⟩ := hrun cursor' hcursor'
    rw [run, run, hreached, hreached']

end OpenTiff

end Tiff

/-- However a file is served, as a mapping or through a window and at whatever pace, a grid file, all
directories of a TIFF file, and the first one of them are read from it as they are from its bytes in
memory, or refused for the same reason. -/
theorem Resource.file_read_eq_memory (α : Type) [Scalar α] (name : String) (data : Bytes)
    (access : Access) (policy : Terminator) :
    (GridFile.ofResource (file name (.ok data) access) : Except Error (GridFile α)) =
        GridFile.ofResource (memory name data) ∧
      Tiff.Decoded.ofResource policy (file name (.ok data) access) =
        Tiff.Decoded.ofResource policy (memory name data) ∧
      (Tiff.OpenTiff.ofResource policy (file name (.ok data) access) >>= fun opened =>
          (opened.run Tiff.Header.first).1) =
        Tiff.OpenTiff.ofResource policy (memory name data) >>= fun opened =>
          (opened.run Tiff.Header.first).1 := by
  have hbytes : (file name (.ok data) access).bytes = (memory name data).bytes := rfl
  refine ⟨GridFile.ofResource_eq α rfl hbytes, ?_, ?_⟩
  · refine Tiff.OpenTiff.bind_run_eq hbytes policy fun header data order p => ?_
    obtain ⟨outcome, finish, -, hrun⟩ := header.exists_runs_chain data order p
    exact ⟨_, finish, hrun⟩
  · exact Tiff.OpenTiff.bind_run_eq hbytes policy Tiff.Header.exists_runs_first

end Georef
