import Georef.Proofs.Tiff.WrittenValues
import Mathlib.Data.List.DropRight

/-!
# Values that are loaded

The values of an entry are loaded one after the other by what their type says of them, while the
bytes that they take are counted from the width of the type. The two agree for every type: values
are loaded if and only if the bytes that were counted are left, and the cursor is behind just these
bytes then. Where there are fewer, the first value that is not there in full is told.

The module introduces:

* `Elements` — values of one width that a source holds from a place on, each by the bytes it takes.
* `KeptText` — the longest start of a text that does not end in a character to be dropped.
* `Value.Held data place policy count type value` — the values of a known type at a place.
* `EndsEarly` — an action fails because the source ends inside what it reads.
* `Value.run_loadField` — loading values of a known type, from any place in a source.
-/

namespace Georef

open Cursor (Action Place Runs Stands)

/-! ## Texts that are cut at their end -/

/-- `KeptText drops full kept`: of the starts of a text that do not end in a character to be
dropped, `kept` is the longest one. -/
structure KeptText (drops : Char → Bool) (full kept : List Char) : Prop where
  starts : kept <+: full
  ends : ∀ c, kept.getLast? = some c → drops c = false
  longest : ∀ other, other <+: full → (∀ c, other.getLast? = some c → drops c = false) →
    other.length ≤ kept.length

/-- What is left after the characters at the end are dropped is the longest such start. -/
theorem keptText_rdropWhile (drops : Char → Bool) (full : List Char) :
    KeptText drops full (full.rdropWhile drops) where
  starts := List.rdropWhile_prefix drops full
  ends c hc := by
    have hne : full.rdropWhile drops ≠ [] := by
      intro hnil
      simp [hnil] at hc
    rw [List.getLast?_eq_some_getLast hne] at hc
    rw [← Option.some.inj hc]
    simpa using List.rdropWhile_last_not drops full hne
  longest other hother hends := by
    by_contra hlonger
    obtain ⟨extra, rfl⟩ : full.rdropWhile drops <+: other :=
      List.prefix_of_prefix_length_le (List.rdropWhile_prefix drops full) hother (by omega)
    have hne : extra ≠ [] := by
      rintro rfl
      simp at hlonger
    -- a longer start ends among the characters that were dropped
    obtain ⟨rest, hrest⟩ := hother
    have hparts : full.rdropWhile drops ++ (extra ++ rest) =
        full.rdropWhile drops ++ full.rtakeWhile drops := by
      rw [← List.append_assoc, hrest, List.rdropWhile_append_rtakeWhile]
    have hdropped : extra ++ rest = full.rtakeWhile drops := List.append_cancel_left hparts
    have hlast : extra.getLast hne ∈ full.rtakeWhile drops :=
      hdropped ▸ List.mem_append_left rest (List.getLast_mem hne)
    have hkept : drops (extra.getLast hne) = false := by
      apply hends
      rw [List.getLast?_append, List.getLast?_eq_some_getLast hne, Option.some_or]
    simp [List.mem_rtakeWhile_imp hlast] at hkept

/-- A text under a policy is the longest start of it that the policy leaves alone. -/
theorem Terminator.keptText_trim (policy : Terminator) (text : String) :
    KeptText policy.drops text.toList (policy.trim text).toList := by
  rw [trim, Text.trimEnd, String.toList_ofList]
  exact keptText_rdropWhile policy.drops text.toList

/-- A byte of a Latin-1 text is the code point of its character. -/
theorem Text.map_toNat_ofLatin1 (codes : List UInt8) :
    (ofLatin1 codes).toList.map Char.toNat = codes.map UInt8.toNat := by
  rw [ofLatin1, String.toList_ofList, List.map_map]
  refine List.map_congr_left fun code _ => ?_
  show (Char.ofNat code.toNat).toNat = code.toNat
  have hlt : code.toNat < 256 := code.toNat_lt
  have hvalid : code.toNat.isValidChar := Or.inl (by omega)
  rw [Char.ofNat, dif_pos hvalid]
  rfl

namespace Tiff

/-! ## Values of one width -/

/-- `Elements α width data place count values`: there are `count` values, and the one at place `i`
is what the bytes from `width * i` up to `width * (i + 1)` behind the place spell, in its order. -/
def Elements (α : Type) [FixedWidth α] (width : Nat) (data : Bytes) (place : Place) (count : Nat)
    (values : List α) : Prop :=
  values.length = count ∧ ∀ (i : Nat) (hi : i < values.length),
    values[i] = FixedWidth.decode place.order
      (data.slice (place.position + width * i) width).toList

/-- The values that a part of the source holds are those of the source, from its beginning on. -/
theorem elements_storedElements (α : Type) [FixedWidth α] (data : Bytes) (place : Place)
    (count : Nat) :
    Elements α (FixedWidth.width α) data place count
      (storedElements α place.order count
        (data.slice place.position (FixedWidth.width α * count))) := by
  refine ⟨length_storedElements _ _ _ _, fun i hi => ?_⟩
  simp only [storedElements_slice, List.getElem_map, List.getElem_range]

/-- Bytes are written as they are. -/
theorem encodeAll_bytes (order : ByteOrder) (values : List UInt8) :
    encodeAll order values = values := by
  have hbyte : ∀ value : UInt8, FixedWidth.encode order value = [value] := by
    intro value
    show order.encode 1 value.toNat = [value]
    cases order <;> simp [ByteOrder.encode, littleEndian]
  induction values with
  | nil => rfl
  | cons value rest ih =>
    rw [encodeAll_cons, hbyte, ih]
    rfl

/-- The bytes of a part of the source are values of width one. -/
theorem elements_bytes {data : Bytes} {place : Place} {count : Nat}
    (h : place.position + count ≤ data.size) :
    Elements UInt8 1 data place count (data.slice place.position (1 * count)).toList := by
  have hsize : (data.slice place.position (1 * count)).toList.length = count := by
    rw [Array.length_toList, Bytes.size_slice]
    omega
  have hstored := storedElements_encodeAll place.order
    (data.slice place.position (1 * count)).toList
  rw [hsize, encodeAll_bytes] at hstored
  rw [← hstored]
  exact elements_storedElements UInt8 data place count

/-! ## The values of an entry -/

namespace Value

/-- `Held data place policy count type value`: at the place there are `count` values of the type,
each in as many bytes as the type is wide. -/
inductive Held (data : Bytes) (place : Place) (policy : Terminator) (count : Nat) :
    ElementType → Value → Prop
  | byte {values : List UInt8}
    (h : Elements UInt8 ElementType.byte.width data place count values) :
    Held data place policy count .byte (.bytes values)
  /-- The bytes are the code points of the characters; the policy decides on those at the end. -/
  | ascii {codes : List UInt8} {full : List Char} {text : String}
    (h : Elements UInt8 ElementType.ascii.width data place count codes)
    (hfull : full.map Char.toNat = codes.map UInt8.toNat)
    (hkept : KeptText policy.drops full text.toList)
    (hpreserve : policy = .preserve → text.toList = full) :
    Held data place policy count .ascii (.ascii text)
  | short {values : List UInt16}
    (h : Elements UInt16 ElementType.short.width data place count values) :
    Held data place policy count .short (.shorts values)
  | long {values : List UInt32}
    (h : Elements UInt32 ElementType.long.width data place count values) :
    Held data place policy count .long (.longs values)
  | rational {values : List (Fraction UInt32)}
    (h : Elements (Fraction UInt32) ElementType.rational.width data place count values) :
    Held data place policy count .rational (.rationals values)
  | signedByte {values : List Int8}
    (h : Elements Int8 ElementType.signedByte.width data place count values) :
    Held data place policy count .signedByte (.signedBytes values)
  | undefined {values : List UInt8}
    (h : Elements UInt8 ElementType.undefined.width data place count values) :
    Held data place policy count .undefined (.undefined values)
  | signedShort {values : List Int16}
    (h : Elements Int16 ElementType.signedShort.width data place count values) :
    Held data place policy count .signedShort (.signedShorts values)
  | signedLong {values : List Int32}
    (h : Elements Int32 ElementType.signedLong.width data place count values) :
    Held data place policy count .signedLong (.signedLongs values)
  | signedRational {values : List (Fraction Int32)}
    (h : Elements (Fraction Int32) ElementType.signedRational.width data place count values) :
    Held data place policy count .signedRational (.signedRationals values)
  | float {values : List Binary32}
    (h : Elements Binary32 ElementType.float.width data place count values) :
    Held data place policy count .float (.floats values)
  | double {values : List Binary64}
    (h : Elements Binary64 ElementType.double.width data place count values) :
    Held data place policy count .double (.doubles values)
  /-- A position that takes four bytes. -/
  | ifd {values : List UInt32}
    (h : Elements UInt32 ElementType.ifd.width data place count values) :
    Held data place policy count .ifd (.offsets (values.map UInt32.toUInt64))
  | long8 {values : List UInt64}
    (h : Elements UInt64 ElementType.long8.width data place count values) :
    Held data place policy count .long8 (.long8s values)
  | signedLong8 {values : List Int64}
    (h : Elements Int64 ElementType.signedLong8.width data place count values) :
    Held data place policy count .signedLong8 (.signedLong8s values)
  /-- A position that takes eight bytes. -/
  | ifd8 {values : List UInt64}
    (h : Elements UInt64 ElementType.ifd8.width data place count values) :
    Held data place policy count .ifd8 (.offsets values)

variable {data : Bytes} {place : Place} {policy : Terminator} {count : Nat}

/-- There are as many values as were asked for, but for a text that is trimmed. -/
theorem Held.length_eq {type : ElementType} {value : Value}
    (h : Held data place policy count type value) (hfull : type = .ascii → policy = .preserve) :
    value.length = count := by
  cases h with
  | ascii helements hcodes hkept hpreserve =>
    rename_i codes full text
    have hlength : full.length = codes.length := by
      simpa using congrArg List.length hcodes
    show text.length = count
    rw [← String.length_toList, hpreserve (hfull rfl), hlength, helements.1]
  | ifd helements =>
    show (List.map _ _).length = count
    rw [List.length_map, helements.1]
  | _ helements => exact helements.1

/-- What is read from the bytes of an entry is what is there. -/
theorem held_ofStored (type : ElementType)
    (h : place.position + type.width * count ≤ data.size) :
    Held data place policy count type
      (ofStored policy place.order count (data.slice place.position (type.width * count))
        type) := by
  -- a byte is a value of its own where the type is one byte wide
  have hbytes : type.width = 1 →
      Elements UInt8 1 data place count (data.slice place.position (1 * count)).toList :=
    fun hwidth => elements_bytes (by rwa [hwidth, Nat.one_mul] at h)
  cases type with
  | byte => exact .byte (hbytes rfl)
  | undefined => exact .undefined (hbytes rfl)
  | ascii =>
    -- a policy that drops nothing keeps the whole text
    refine .ascii (hbytes rfl) (Text.map_toNat_ofLatin1 _) (policy.keptText_trim _) ?_
    rintro rfl
    rw [Terminator.trim_preserve]
    rfl
  | short => exact .short (elements_storedElements UInt16 data place count)
  | long => exact .long (elements_storedElements UInt32 data place count)
  | rational => exact .rational (elements_storedElements (Fraction UInt32) data place count)
  | signedByte => exact .signedByte (elements_storedElements Int8 data place count)
  | signedShort => exact .signedShort (elements_storedElements Int16 data place count)
  | signedLong => exact .signedLong (elements_storedElements Int32 data place count)
  | signedRational =>
    exact .signedRational (elements_storedElements (Fraction Int32) data place count)
  | float => exact .float (elements_storedElements Binary32 data place count)
  | double => exact .double (elements_storedElements Binary64 data place count)
  | ifd => exact .ifd (elements_storedElements UInt32 data place count)
  | long8 => exact .long8 (elements_storedElements UInt64 data place count)
  | signedLong8 => exact .signedLong8 (elements_storedElements Int64 data place count)
  | ifd8 => exact .ifd8 (elements_storedElements UInt64 data place count)

end Value

/-! ## Where the source ends too early -/

variable {ρ : Type} [Reader ρ] [LawfulReader ρ] {data : Bytes} {start : Place} {β : Type}

/-- `EndsEarly data start action`: the action fails because the source ends inside what it reads,
and the cursor stays in front of that. -/
def EndsEarly (data : Bytes) (start : Place) (action : Action ρ β) : Prop :=
  ∃ behind needed, start.position + behind ≤ data.size ∧
    data.size - (start.position + behind) < needed ∧
    Runs data start action
      (.error (.endOfData (start.position + behind) needed
        (data.size - (start.position + behind)))) (start.advance behind)

namespace EndsEarly

variable {γ : Type}

/-- What fails at once fails where it starts. -/
theorem bytes {count : Nat} (hstart : start.position ≤ data.size)
    (h : data.size - start.position < count) :
    EndsEarly (ρ := ρ) data start (Cursor.bytes count) :=
  ⟨0, count, hstart, h, Runs.bytes_of_lt h⟩

/-- A step that fails leaves nothing to do for the steps behind it. -/
theorem bind {first : Action ρ β} {rest : β → Action ρ γ} (h : EndsEarly data start first) :
    EndsEarly data start (first >>= rest) := by
  obtain ⟨behind, needed, hinside, hneeded, hruns⟩ := h
  exact ⟨behind, needed, hinside, hneeded, hruns.bind_error⟩

/-- Behind a step that succeeds, the source ends too early for the whole. -/
theorem after {first : Action ρ β} {rest : β → Action ρ γ} {result : β} {width : Nat}
    (hfirst : Runs data start first (.ok result) (start.advance width))
    (h : EndsEarly data (start.advance width) (rest result)) :
    EndsEarly data start (first >>= rest) := by
  obtain ⟨behind, needed, hinside, hneeded, hruns⟩ := h
  rw [Place.position_advance, Nat.add_assoc] at hinside hneeded hruns
  rw [Place.advance_advance] at hruns
  exact ⟨width + behind, needed, hinside, hneeded, hfirst.bind hruns⟩

/-- Of values that are not all there, those in front of the first that is missing are read. -/
theorem repeatOnto (α : Type) [FixedWidth α] {count : Nat} (done : Array α)
    (hstart : start.position ≤ data.size)
    (h : data.size - start.position < FixedWidth.width α * count) :
    EndsEarly (ρ := ρ) data start (Cursor.repeatOnto (Cursor.next α) count done) := by
  induction count generalizing start done with
  | zero =>
    rw [Nat.mul_zero] at h
    exact absurd h (Nat.not_lt_zero _)
  | succ count ih =>
    by_cases hfirst : start.position + FixedWidth.width α ≤ data.size
    · -- the first value is there, and one of the others is not
      refine after (Runs.next α hfirst) (ih _ ?_ ?_)
      · rwa [Place.position_advance]
      · rw [Nat.mul_add, Nat.mul_one] at h
        rw [Place.position_advance]
        omega
    · -- the first value is missing already
      exact bind (bind (bytes hstart (by omega)))

theorem elements (α : Type) [FixedWidth α] {count : Nat} (hstart : start.position ≤ data.size)
    (h : data.size - start.position < FixedWidth.width α * count) :
    EndsEarly (ρ := ρ) data start (Cursor.times count (Cursor.next α)) :=
  bind (repeatOnto α #[] hstart h)

/-- The values of an entry are not loaded where the bytes that its type counts are not there. -/
theorem load {count : Nat} (policy : Terminator) (type : ElementType)
    (hstart : start.position ≤ data.size)
    (h : data.size - start.position < type.width * count) :
    EndsEarly (ρ := ρ) data start (Value.load count policy type) := by
  have hbytes : type.width = 1 → EndsEarly (ρ := ρ) data start (Cursor.bytes count) :=
    fun hwidth => bytes hstart (by rwa [hwidth, Nat.one_mul] at h)
  cases type with
  | byte => exact bind (hbytes rfl)
  | undefined => exact bind (hbytes rfl)
  | ascii => exact bind (bind (hbytes rfl))
  | signedByte => exact bind (elements Int8 hstart h)
  | short => exact bind (elements UInt16 hstart h)
  | signedShort => exact bind (elements Int16 hstart h)
  | long => exact bind (elements UInt32 hstart h)
  | signedLong => exact bind (elements Int32 hstart h)
  | rational => exact bind (elements (Fraction UInt32) hstart h)
  | signedRational => exact bind (elements (Fraction Int32) hstart h)
  | float => exact bind (elements Binary32 hstart h)
  | double => exact bind (elements Binary64 hstart h)
  | ifd => exact bind (elements UInt32 hstart h)
  | ifd8 => exact bind (elements UInt64 hstart h)
  | long8 => exact bind (elements UInt64 hstart h)
  | signedLong8 => exact bind (elements Int64 hstart h)

end EndsEarly

/-! ## Loading values -/

/-- Values of a known type are loaded from a place inside a source if and only if as many bytes are
left there as the type takes for each of them. The cursor moves behind these bytes, and the values
are what they hold. Where there are fewer the source has ended, and the cursor is still in it. -/
theorem Value.run_loadField (type : ElementType) (count : Nat) (policy : Terminator)
    {cursor : Cursor ρ} (hcursor : cursor.Stands data start) (hstart : start.position ≤ data.size) :
    (type.width * count ≤ data.size - start.position →
      ∃ value cursor', cursor.run (loadField (.known type) count policy) = (.ok value, cursor') ∧
        cursor'.Stands data (start.advance (type.width * count)) ∧
        Held data start policy count type value ∧
        ((type = .ascii → policy = .preserve) → value.length = count)) ∧
    (data.size - start.position < type.width * count →
      ∃ offset needed cursor', cursor.run (loadField (.known type) count policy) =
          (.error (.endOfData offset needed (data.size - offset)), cursor') ∧
        start.position ≤ offset ∧ offset ≤ data.size ∧ data.size - offset < needed ∧
        cursor'.Stands data ⟨start.order, offset⟩) := by
  constructor
  · intro h
    have hfit : start.position + type.width * count ≤ data.size := by omega
    obtain ⟨cursor', hrun, hcursor'⟩ := Runs.load policy type hfit cursor hcursor
    have hheld : Held data start policy count type
        (ofStored policy start.order count
          (data.slice start.position (type.width * count)) type) := held_ofStored type hfit
    exact ⟨_, cursor', hrun, hcursor', hheld, hheld.length_eq⟩
  · -- what is missing begins where the cursor is left
    intro h
    obtain ⟨behind, needed, hinside, hneeded, hruns⟩ :=
      EndsEarly.load (ρ := ρ) policy type hstart h
    obtain ⟨cursor', hrun, hcursor'⟩ := hruns cursor hcursor
    exact ⟨_, needed, cursor', hrun, Nat.le_add_right _ _, hinside, hneeded, hcursor'⟩

/-- Two signed numbers of two bytes are loaded from behind the first byte of a source, and a third
one is missing. -/
theorem Value.run_loadField_shorts :
    let data : Bytes := #[9, 0xFF, 0xFB, 0, 7, 1]
    let cursor : Cursor MemoryReader :=
      { reader := { data, position := 1 }, order := .big, position := 1, length := 6 }
    (∃ cursor', cursor.run (loadField (.known .signedShort) 2 .preserve) =
        (.ok (.signedShorts [-5, 7]), cursor') ∧ cursor'.position = 5) ∧
      ∃ offset needed cursor', cursor.run (loadField (.known .signedShort) 3 .preserve) =
          (.error (.endOfData offset needed (6 - offset)), cursor') ∧ 6 - offset < needed := by
  intro data cursor
  have hcursor : cursor.Stands data ⟨.big, 1⟩ := ⟨⟨rfl, rfl⟩, rfl, rfl, rfl⟩
  constructor
  · obtain ⟨value, cursor', hrun, hcursor', hheld, -⟩ :=
      (run_loadField .signedShort 2 .preserve hcursor (by decide)).1 (by decide)
    refine ⟨cursor', ?_, hcursor'.position_eq⟩
    rw [hrun]
    cases hheld with
    | signedShort helements =>
      rename_i values
      have hvalues : values = [-5, 7] := by
        obtain ⟨hlength, hspelled⟩ := helements
        have hfirst : FixedWidth.decode .big (Bytes.slice #[9, 0xFF, 0xFB, 0, 7, 1] 1 2).toList =
            (-5 : Int16) := by decide
        have hsecond : FixedWidth.decode .big (Bytes.slice #[9, 0xFF, 0xFB, 0, 7, 1] 3 2).toList =
            (7 : Int16) := by decide
        refine List.ext_getElem hlength fun i hi hi' => ?_
        have hi : i = 0 ∨ i = 1 := by
          have : i < 2 := hi'
          omega
        obtain rfl | rfl := hi
        · exact (hspelled 0 _).trans hfirst
        · exact (hspelled 1 _).trans hsecond
      rw [hvalues]
  · obtain ⟨offset, needed, cursor', hrun, -, -, hneeded, -⟩ :=
      (run_loadField .signedShort 3 .preserve hcursor (by decide)).2 (by decide)
    exact ⟨offset, needed, cursor', hrun, hneeded⟩

end Tiff

end Georef
