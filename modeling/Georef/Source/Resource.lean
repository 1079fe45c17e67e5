import Georef.PathName
import Georef.Source.Buffered
import Georef.Source.Cursor
import Georef.Source.Gzip

/-!
# Resources

A resource is a named source of bytes that can be opened any number of times. Bytes in memory, a
mapped file and an inflated file are read from memory; any other file is read through a window.

Files are found in a `Files` table, a function from paths to their contents; how the table is
filled is a matter of the program that uses it.

* `Resource`, `Resource.reader`, `Resource.cursor`: resources, and opening them.
* `Resource.ofPath`: the resource of a file; the extension `gz` means that it is compressed.
-/

namespace Georef

/-- The contents of files by path. -/
abbrev Files : Type := String → Except IoFault Bytes

/-- How a stored file is read. -/
inductive Access where
  /-- As a whole. -/
  | mapped
  /-- Through a window, at the pace of the store. -/
  | streamed (pace : Nat → Nat)

/-- A named source of bytes. -/
inductive Resource where
  | memory (name : String) (data : Bytes)
  | file (name : String) (contents : Except IoFault Bytes) (access : Access)
  | compressed (name : String) (contents : Except IoFault Bytes)

/-- The readers that resources open. -/
inductive ResourceReader where
  | memory (reader : MemoryReader)
  | buffered (reader : BufferedReader StreamReader)

instance : Reader ResourceReader where
  read count
    | .memory reader =>
      let (chunk, reader) := Reader.read count reader
      (chunk, .memory reader)
    | .buffered reader =>
      let (chunk, reader) := Reader.read count reader
      (chunk, .buffered reader)
  seek target
    | .memory reader => (Reader.seek target reader).map fun (p, reader) => (p, .memory reader)
    | .buffered reader => (Reader.seek target reader).map fun (p, reader) => (p, .buffered reader)

namespace Resource

/-- The name in messages and results. -/
def name : Resource → String
  | memory name _ => name
  | file name _ _ => name
  | compressed name _ => name

/-- Whether the stored bytes are compressed. -/
def isCompressed : Resource → Bool
  | compressed .. => true
  | _ => false

/-- A reader at the start of the resource. -/
def reader : Resource → Except Error ResourceReader
  | memory _ data => .ok (.memory { data })
  | file _ contents access => do
    let data ← contents.mapError .io
    match access with
    | .mapped => return .memory { data }
    | .streamed pace => return .buffered (.ofReader BufferedReader.defaultCapacity { data, pace })
  | compressed _ contents => do
    let data ← contents.mapError .io
    return .memory { data := ← (Gzip.gunzip data).mapError .io }

/-- A cursor at the start of the resource. -/
def cursor (order : ByteOrder) (resource : Resource) : Except Error (Cursor ResourceReader) := do
  Cursor.ofReader order (← resource.reader)

/-- Whether a path names a compressed file. -/
def namesCompressed (path : String) : Bool :=
  match PathName.extension? path with
  | some extension => extension.toList.map Char.toLower == ['g', 'z']
  | none => false

/-- The resource of a file. -/
def ofPath (files : Files) (access : Access) (path : String) : Resource :=
  let name := PathName.displayName path
  if namesCompressed path then compressed name (files path) else file name (files path) access

end Resource

/-- Reading files as a whole if they are to be mapped, and else as fast as the store allows. -/
def Access.ofFlag (mapped : Bool) : Access :=
  if mapped then .mapped else .streamed fun _ => positionBound

end Georef
