import Georef.Proofs.Source.CursorRuns
import Georef.Tiff.Decoding

/-!
# Values as they are stored

Values of one type are stored one after the other, each in the bytes that its type takes. What a
cursor reads is what the bytes spell, wherever they are stored and whatever reader hands them out.

The module introduces:

* `storedElements α order count stored` — the values of a fixed-width type that `stored` holds.
* `Value.ofStored policy order count stored type` — the values of an entry of known type.
* `Runs.natural`, `Runs.within`, `Runs.load` — reading a number, reading from bytes kept apart, and
  reading the values of an entry.
-/

namespace Georef.Tiff

open Cursor (Action Place Runs Stands)

/-- The values of a fixed-width type that bytes hold, one after the other. -/
def storedElements (α : Type) [FixedWidth α] (order : ByteOrder) (count : Nat) (stored : Bytes) :
    List α :=
  (List.range count).map fun i =>
    FixedWidth.decode order (stored.slice (FixedWidth.width α * i) (FixedWidth.width α)).toList

@[simp]
theorem length_storedElements (α : Type) [FixedWidth α] (order : ByteOrder) (count : Nat)
    (stored : Bytes) : (storedElements α order count stored).length = count := by
  simp [storedElements]

/-- The values that a part of a source holds are slices of the source, from its beginning on. -/
theorem storedElements_slice (α : Type) [FixedWidth α] (order : ByteOrder) (count : Nat)
    (data : Bytes) (position : Nat) :
    storedElements α order count (data.slice position (FixedWidth.width α * count)) =
      (List.range count).map fun i => FixedWidth.decode order
        (data.slice (position + FixedWidth.width α * i) (FixedWidth.width α)).toList := by
  refine List.map_congr_left fun i hi => ?_
  have hfit : FixedWidth.width α * (i + 1) ≤ FixedWidth.width α * count :=
    Nat.mul_le_mul_left _ (List.mem_range.1 hi)
  rw [Bytes.slice_slice _ _ _ _ _ (by rwa [Nat.mul_add, Nat.mul_one] at hfit)]

namespace Value

/-- The values of an entry of known type that bytes hold. -/
def ofStored (policy : Terminator) (order : ByteOrder) (count : Nat) (stored : Bytes) :
    ElementType → Value
  | .byte => bytes stored.toList
  | .undefined => undefined stored.toList
  | .ascii => ascii (policy.trim (Text.ofLatin1 stored.toList))
  | .signedByte => signedBytes (storedElements Int8 order count stored)
  | .short => shorts (storedElements UInt16 order count stored)
  | .signedShort => signedShorts (storedElements Int16 order count stored)
  | .long => longs (storedElements UInt32 order count stored)
  | .signedLong => signedLongs (storedElements Int32 order count stored)
  | .rational => rationals (storedElements (Fraction UInt32) order count stored)
  | .signedRational => signedRationals (storedElements (Fraction Int32) order count stored)
  | .float => floats (storedElements Binary32 order count stored)
  | .double => doubles (storedElements Binary64 order count stored)
  | .ifd => offsets ((storedElements UInt32 order count stored).map UInt32.toUInt64)
  | .ifd8 => offsets (storedElements UInt64 order count stored)
  | .long8 => long8s (storedElements UInt64 order count stored)
  | .signedLong8 => signedLong8s (storedElements Int64 order count stored)

end Value

/-! ## Reading them -/

variable {ρ : Type} [Reader ρ] [LawfulReader ρ] {data : Bytes} {start finish : Place}

/-- A natural number of a given width is read from the bytes it takes. -/
theorem Runs.natural {width : Nat} (h : start.position + width ≤ data.size) :
    Runs (ρ := ρ) data start (natural width)
      (.ok (start.order.decode (data.slice start.position width).toList)) (start.advance width) :=
  (Runs.bytes h).bind (Runs.get_bind fun cursor hcursor => by
    rw [hcursor.order_eq]
    exact Runs.pure _)

/-- A number that is not there is not read. -/
theorem Runs.natural_of_lt {width : Nat} (h : data.size - start.position < width) :
    Runs (ρ := ρ) data start (Tiff.natural width)
      (.error (.endOfData start.position width (data.size - start.position))) start :=
  (Runs.bytes_of_lt h).bind_error

/-- Reading from bytes kept apart leaves the cursor where it is. -/
theorem Runs.within {α : Type} {apart : Bytes} {action : Action MemoryReader α}
    {outcome : Except Error α} (h : Runs apart ⟨start.order, 0⟩ action outcome finish) :
    Runs (ρ := ρ) data start (within apart action) outcome start := by
  refine Runs.get_bind fun cursor hcursor => ?_
  -- the byte order is that of the cursor outside
  have hstands : Stands apart ⟨start.order, 0⟩
      ({ reader := { data := apart }, order := cursor.order, position := 0,
         length := apart.size } : Cursor MemoryReader) :=
    ⟨⟨rfl, rfl⟩, hcursor.order_eq, rfl, rfl⟩
  obtain ⟨cursor', hrun, -⟩ := h _ hstands
  simp only [hrun]
  exact Runs.ofExcept outcome

/-- Values of a fixed-width type are read as they are stored. -/
theorem Runs.elements (α : Type) [FixedWidth α] {count : Nat}
    (h : start.position + FixedWidth.width α * count ≤ data.size) :
    Runs (ρ := ρ) data start (Cursor.times count (Cursor.next α))
      (.ok (storedElements α start.order count
        (data.slice start.position (FixedWidth.width α * count))))
      (start.advance (FixedWidth.width α * count)) := by
  rw [storedElements_slice]
  exact Runs.times_next α h

/-- The values of an entry of known type are read as they are stored. -/
theorem Runs.load {count : Nat} (policy : Terminator) (type : ElementType)
    (h : start.position + type.width * count ≤ data.size) :
    Runs (ρ := ρ) data start (Value.load count policy type)
      (.ok (Value.ofStored policy start.order count
        (data.slice start.position (type.width * count)) type))
      (start.advance (type.width * count)) := by
  -- types of single bytes are read in one piece, the others value by value
  have hbytes : type.width = 1 → start.position + count ≤ data.size := fun hwidth => by
    rwa [hwidth, Nat.one_mul] at h
  cases type with
  | byte =>
    rw [show ElementType.byte.width * count = count from Nat.one_mul count]
    exact (Runs.bytes (hbytes rfl)).bind (Runs.pure _)
  | undefined =>
    rw [show ElementType.undefined.width * count = count from Nat.one_mul count]
    exact (Runs.bytes (hbytes rfl)).bind (Runs.pure _)
  | ascii =>
    rw [show ElementType.ascii.width * count = count from Nat.one_mul count]
    exact (Runs.text (hbytes rfl) rfl).bind (Runs.pure _)
  | signedByte => exact (Runs.elements Int8 h).bind (Runs.pure _)
  | short => exact (Runs.elements UInt16 h).bind (Runs.pure _)
  | signedShort => exact (Runs.elements Int16 h).bind (Runs.pure _)
  | long => exact (Runs.elements UInt32 h).bind (Runs.pure _)
  | signedLong => exact (Runs.elements Int32 h).bind (Runs.pure _)
  | rational => exact (Runs.elements (Fraction UInt32) h).bind (Runs.pure _)
  | signedRational => exact (Runs.elements (Fraction Int32) h).bind (Runs.pure _)
  | float => exact (Runs.elements Binary32 h).bind (Runs.pure _)
  | double => exact (Runs.elements Binary64 h).bind (Runs.pure _)
  | ifd => exact (Runs.elements UInt32 h).bind (Runs.pure _)
  | ifd8 => exact (Runs.elements UInt64 h).bind (Runs.pure _)
  | long8 => exact (Runs.elements UInt64 h).bind (Runs.pure _)
  | signedLong8 => exact (Runs.elements Int64 h).bind (Runs.pure _)

end Georef.Tiff
