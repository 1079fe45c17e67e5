import Georef.Text.Utf8
import Mathlib.Tactic.Common

/-!
# Texts as bytes

A text is stored as the bytes of its characters, one after the other, and is found again in them. A
character of seven bits takes one byte, its code point; all bytes of any other character have the
highest bit set, so that none of them is taken for a character of seven bits.

* `Bytes.toList_ofText_eq_flatMap`, `Text.ofUtf8?_ofText` — the bytes of a text, and the text again.
* `utf8EncodeChar_of_lt`, `eq_or_le_of_mem_utf8EncodeChar` — the bytes of one character.
* `Bytes.toList_ofText` — the bytes of a text of seven-bit characters.
-/

namespace Georef

/-- The bytes of a text are those of its characters. -/
theorem Bytes.toList_ofText_eq_flatMap (text : String) :
    (ofText text).toList = text.toList.flatMap String.utf8EncodeChar := by
  show text.toByteArray.data.toList = _
  rw [← String.utf8Encode_toList]
  simp [List.utf8Encode]

/-- The text of the bytes of a text is the text. -/
@[simp]
theorem Text.ofUtf8?_ofText (text : String) : ofUtf8? (Bytes.ofText text) = some text := by
  show String.fromUTF8? text.toByteArray = some text
  rw [String.fromUTF8?, dif_pos text.isValidUTF8]
  rfl

/-! ## Characters -/

/-- A seven-bit character is encoded by its code point. -/
theorem utf8EncodeChar_of_lt {c : Char} (h : c.toNat < 128) :
    String.utf8EncodeChar c = [UInt8.ofNat c.toNat] := by
  have hval : c.val ≤ 127 := by
    rw [UInt32.le_iff_toNat_le]
    exact Nat.le_of_lt_succ h
  rw [String.utf8EncodeChar_eq_singleton (Char.utf8Size_eq_one_iff.2 hval)]
  rfl

/-- A byte of a character is the code point of the character, or it is not of seven bits. -/
theorem eq_or_le_of_mem_utf8EncodeChar {c : Char} {byte : UInt8}
    (h : byte ∈ String.utf8EncodeChar c) : byte.toNat = c.toNat ∨ 128 ≤ byte.toNat := by
  have hval : c.val.toNat = c.toNat := rfl
  have hbyte : ∀ n, (UInt8.ofNat n).toNat = n % 256 := fun _ => UInt8.toNat_ofNat'
  simp only [String.utf8EncodeChar, hval] at h
  split at h
  · obtain rfl := List.mem_singleton.1 h
    rw [hbyte]
    omega
  · -- all bytes of a longer encoding have the highest bit set
    refine .inr ?_
    split at h
    · simp only [List.mem_cons, List.not_mem_nil, or_false] at h
      rcases h with rfl | rfl <;> rw [hbyte] <;> omega
    · split at h <;> simp only [List.mem_cons, List.not_mem_nil, or_false] at h
      · rcases h with rfl | rfl | rfl <;> rw [hbyte] <;> omega
      · rcases h with rfl | rfl | rfl | rfl <;> rw [hbyte] <;> omega

/-! ## Seven-bit texts -/

theorem Bytes.toList_ofText {text : String} (h : ∀ c ∈ text.toList, c.toNat < 128) :
    (Bytes.ofText text).toList = text.toList.map fun c => UInt8.ofNat c.toNat := by
  rw [toList_ofText_eq_flatMap]
  -- the induction is on characters, as bytes are written one by one
  revert h
  induction text.toList with
  | nil => exact fun _ => rfl
  | cons c rest ih =>
    intro h
    obtain ⟨hfirst, hrest⟩ := List.forall_mem_cons.1 h
    rw [List.flatMap_cons, utf8EncodeChar_of_lt hfirst, ih hrest]
    rfl

end Georef
