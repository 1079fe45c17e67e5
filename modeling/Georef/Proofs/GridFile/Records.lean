import Georef.GridFile.Writing
import Georef.Proofs.Source.WrittenBytes
import Georef.Proofs.TextBytes
import Mathlib.Tactic.Common

/-!
# Records that are read as they were written

A label or a text fills a field of eight bytes with spaces. It is read without them, so a text that
ends in a space or a NUL character itself would not be found again, and neither would one that is
too long or not of seven bits.

The module introduces:

* `Storable text` — the text is found again in the field that it was written to.
* `takes_readName`, `takes_readInteger`, `takes_readText`, `takes_readDouble` — records are read as
  they were written.
-/

namespace Georef

open Cursor (Takes Refuses)

namespace GridFile

/-- `Storable text`: the text has at most eight seven-bit characters, and the last one is not among
those that fill up a field. -/
def Storable (text : String) : Prop :=
  (∀ c ∈ text.toList, c.toNat < 128) ∧ text.toList.length ≤ fieldLength ∧
    ∀ c ∈ text.toList.getLast?, c ≠ '\x00' ∧ c ≠ ' '

instance (text : String) : Decidable (Storable text) :=
  decidable_of_iff
    ((text.toList.all fun c => c.toNat < 128) ∧ text.toList.length ≤ fieldLength ∧
      text.toList.getLast?.all fun c => c ≠ '\x00' ∧ c ≠ ' ')
    (by simp [Storable, Option.all_eq_true])

section Fields

variable {text : String} (h : Storable text)
include h

/-- The field of a storable text. -/
theorem Storable.textField_eq :
    textField text =
      (text.toList ++ List.replicate (fieldLength - text.toList.length) ' ').map
        fun c => UInt8.ofNat c.toNat := by
  obtain ⟨hseven, hlength, -⟩ := h
  have hbytes := Bytes.toList_ofText hseven
  have hfits : (Bytes.ofText text).toList.length ≤ fieldLength := by
    rw [hbytes, List.length_map]
    exact hlength
  rw [textField, List.take_of_length_le hfits, hbytes, List.length_map, List.map_append,
    List.map_replicate]
  rfl

theorem Storable.length_textField : (textField text).length = fieldLength := by
  have hlength := h.2.1
  rw [h.textField_eq, List.length_map, List.length_append, List.length_replicate]
  omega

/-- The characters in the field of a storable text. -/
theorem Storable.ofLatin1_textField :
    Text.ofLatin1 (textField text) =
      String.ofList (text.toList ++ List.replicate (fieldLength - text.toList.length) ' ') := by
  have hseven : ∀ c ∈ text.toList ++ List.replicate (fieldLength - text.toList.length) ' ',
      c.toNat < 128 := by
    intro c hc
    rcases List.mem_append.1 hc with hc | hc
    · exact h.1 c hc
    · rw [List.eq_of_mem_replicate hc]
      decide
  -- a byte is read as the character of its number, which it was written from
  have hread : ∀ c ∈ text.toList ++ List.replicate (fieldLength - text.toList.length) ' ',
      Char.ofNat (UInt8.ofNat c.toNat).toNat = c := by
    intro c hc
    have hbyte : (UInt8.ofNat c.toNat).toNat = c.toNat :=
      UInt8.toNat_ofNat_of_lt' (Nat.lt_trans (hseven c hc) (by decide))
    rw [hbyte, Char.ofNat_toNat]
  rw [Text.ofLatin1, h.textField_eq, List.map_map]
  exact congrArg String.ofList ((List.map_congr_left hread).trans (List.map_id _))

/-- What fills up the field of a storable text is cut off, and nothing else. -/
theorem Storable.trim_padded (count : Nat) :
    Terminator.trimPadding.trim (String.ofList (text.toList ++ List.replicate count ' ')) =
      text := by
  have hlast := h.2.2
  rw [Terminator.trim, Text.trimEnd, String.toList_ofList, List.reverse_append,
    List.reverse_replicate]
  have hpadding : ∀ c ∈ List.replicate count ' ', Terminator.trimPadding.drops c := by
    intro c hc
    rw [List.eq_of_mem_replicate hc]
    rfl
  -- the last character of the text stops the trimming
  have hkept : text.toList.reverse.dropWhile Terminator.trimPadding.drops =
      text.toList.reverse := by
    rw [← List.head?_reverse] at hlast
    cases hreverse : text.toList.reverse with
    | nil => rfl
    | cons c rest =>
      rw [hreverse] at hlast
      obtain ⟨hnul, hspace⟩ := hlast c rfl
      have hdrops : ¬Terminator.trimPadding.drops c := by
        simp [Terminator.drops, hnul, hspace]
      exact List.dropWhile_cons_of_neg hdrops
  rw [List.dropWhile_append_of_pos hpadding, hkept, List.reverse_reverse, String.ofList_toList]

end Fields

/-! ## Records -/

section Records

variable {ρ : Type} [Reader ρ] [LawfulReader ρ] {order : ByteOrder} {label text : String}

/-- The text of a field is read without what fills up the field. -/
theorem takes_readName (h : Storable text) :
    Takes (ρ := ρ) order (textField text) readName text := by
  have hdecode : TextEncoding.latin1.decode order (textField text) =
      .ok (Text.ofLatin1 (textField text)) := rfl
  have htext := Takes.text (ρ := ρ) .trimPadding hdecode
  rwa [h.ofLatin1_textField, h.trim_padded, h.length_textField] at htext

theorem takes_expectLabel (h : Storable label) :
    Takes (ρ := ρ) order (textField label) (expectLabel label) ⟨⟩ := by
  refine Takes.here_bind fun offset => (takes_readName h).bind_end ?_
  -- the label that was written is the one that is expected
  rw [if_neg (not_not_intro rfl)]
  exact Takes.pure _

theorem takes_readInteger (h : Storable label) (value : Int32) :
    Takes (ρ := ρ) order (integerRecord order label value) (readInteger label) value.toInt := by
  rw [integerRecord, List.append_assoc]
  exact (takes_expectLabel h).bind
    ((Takes.next value).bind ((Takes.skip _).bind_end (Takes.pure _)))

theorem takes_readText (hlabel : Storable label) (htext : Storable text) :
    Takes (ρ := ρ) order (textRecord label text) (readText label) text :=
  (takes_expectLabel hlabel).bind (takes_readName htext)

theorem takes_readDouble (h : Storable label) (value : Binary64) :
    Takes (ρ := ρ) order (doubleRecord order label value) (readDouble label) value :=
  (takes_expectLabel h).bind (Takes.next value)

end Records

end GridFile

end Georef
