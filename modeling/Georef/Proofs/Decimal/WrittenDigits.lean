import Georef.Decimal.Reading
import Georef.Proofs.Decimal.ShortestDigits

/-!
# Written digits are read

However a decimal is laid out, its digits are found again when the text is read: the point may stand
anywhere among them or behind added zeros, and an exponent may follow.

The module introduces:

* `Digital text` — the text consists of digits; `Stops text` — no digit comes first.
* `takeDigits_append` — the digits in front are read as a number.
* `readUnsigned?_whole`, `readUnsigned?_fraction` — texts without and with a point.
* `readAs_positionalText`, `readAs_exponentText` — both layouts of a decimal are read
  as the number that it stands for.
-/

namespace Georef.Decimal

/-! ## Digits -/

/-- `Digital text`: all characters are digits. -/
def Digital (text : List Char) : Prop :=
  ∀ c ∈ text, c.isDigit

/-- `Stops text`: the first character is no digit. -/
def Stops (text : List Char) : Prop :=
  ∀ c ∈ text.head?, digit? c = none

theorem stops_nil : Stops [] := nofun

theorem stops_cons {c : Char} (h : digit? c = none) (rest : List Char) : Stops (c :: rest) := by
  intro d hd
  obtain rfl : c = d := Option.some.inj hd
  exact h

theorem digit?_of_isDigit {c : Char} (h : c.isDigit) : digit? c = some (c.toNat - 48) := by
  rw [Char.isDigit, Bool.and_eq_true, decide_eq_true_eq, decide_eq_true_eq] at h
  exact if_pos h

/-- The number of a digit is below ten. -/
theorem toNat_sub_lt_of_isDigit {c : Char} (h : c.isDigit) : c.toNat - 48 < 10 := by
  rw [Char.isDigit, Bool.and_eq_true, decide_eq_true_eq, decide_eq_true_eq] at h
  have hle : c.toNat ≤ 57 := h.2
  omega

theorem digital_natDigits (n : Nat) : Digital (natDigits n) := fun _ h =>
  Nat.isDigit_of_mem_toDigits (by decide) (by decide) h

theorem digital_replicate (n : Nat) : Digital (List.replicate n '0') := by
  intro c h
  rw [List.eq_of_mem_replicate h]
  rfl

theorem Digital.append {text text' : List Char} (h : Digital text) (h' : Digital text') :
    Digital (text ++ text') := by
  intro c hc
  rcases List.mem_append.1 hc with hc | hc
  · exact h c hc
  · exact h' c hc

theorem Digital.take {text : List Char} (h : Digital text) (n : Nat) : Digital (text.take n) :=
  fun c hc => h c (List.mem_of_mem_take hc)

theorem Digital.drop {text : List Char} (h : Digital text) (n : Nat) : Digital (text.drop n) :=
  fun c hc => h c (List.mem_of_mem_drop hc)

/-- The digits in front of a text are read as a number. -/
theorem takeDigits_append {digits rest : List Char} (hdigits : Digital digits) (hrest : Stops rest)
    (number count : Nat) :
    takeDigits number count (digits ++ rest) =
      (Nat.ofDigitChars 10 digits number, count + digits.length, rest) := by
  induction digits generalizing number count with
  | nil =>
    cases rest with
    | nil => rfl
    | cons c rest =>
      have hstop : digit? c = none := hrest c rfl
      rw [List.nil_append, takeDigits, hstop]
      rfl
  | cons c digits ih =>
    have hdigit := digit?_of_isDigit (hdigits c (List.mem_cons_self ..))
    have hothers : Digital digits := fun d hd => hdigits d (List.mem_cons_of_mem c hd)
    rw [List.cons_append, takeDigits, hdigit, Nat.ofDigitChars_cons, List.length_cons]
    simp only
    rw [ih hothers, Nat.add_assoc, Nat.add_comm 1]
    rfl

/-- So many digits hold a number below that power of ten. -/
theorem ofDigitChars_lt {digits : List Char} (h : Digital digits) :
    Nat.ofDigitChars 10 digits 0 < 10 ^ digits.length := by
  induction digits with
  | nil => exact one_pos
  | cons c digits ih =>
    have hdigit : c.toNat - '0'.toNat < 10 :=
      toNat_sub_lt_of_isDigit (h c (List.mem_cons_self ..))
    have hothers := ih fun d hd => h d (List.mem_cons_of_mem c hd)
    rw [Nat.ofDigitChars_cons, Nat.ofDigitChars_eq_ofDigitChars_zero, List.length_cons, Nat.pow_succ]
    generalize c.toNat - '0'.toNat = d at hdigit ⊢
    nlinarith [Nat.mul_le_mul_left (10 ^ digits.length) (Nat.le_of_lt_succ hdigit)]

theorem ofDigitChars_natDigits (n : Nat) : Nat.ofDigitChars 10 (natDigits n) 0 = n :=
  Nat.ofDigitChars_ten_toDigits

theorem natDigits_length_pos (n : Nat) : 0 < (natDigits n).length :=
  Nat.length_toDigits_pos

/-- Written natural numbers are read. -/
theorem readDigits?_natDigits (n : Nat) : readDigits? (natDigits n) = some n := by
  have htake := takeDigits_append (digital_natDigits n) stops_nil 0 0
  rw [List.append_nil, ofDigitChars_natDigits, Nat.zero_add] at htake
  rw [readDigits?, htake]
  exact if_neg (natDigits_length_pos n).ne'

/-- A text that begins with a digit, taken apart. -/
theorem exists_eq_cons_of_digital {digits : List Char} (h : Digital digits)
    (hlength : 0 < digits.length) :
    ∃ c rest, digits = c :: rest ∧ c.isDigit :=
  match digits, hlength with
  | c :: rest, _ => ⟨c, rest, rfl, h c (List.mem_cons_self ..)⟩

/-! ## Exponents -/

/-- Written exponents are read. -/
theorem readExponent?_intDigits (i : Int) : readExponent? ('e' :: intDigits i) = some i := by
  have hread := readDigits?_natDigits i.natAbs
  rw [intDigits]
  split
  · -- the sign comes first
    rw [readExponent?, if_pos (.inl rfl)]
    simp only [hread, Option.map_some, Option.pure_def, Option.bind_eq_bind, Option.bind_some]
    congr 1
    omega
  · obtain ⟨c, rest, hcons, hc⟩ :=
      exists_eq_cons_of_digital (digital_natDigits i.natAbs) (natDigits_length_pos _)
    rw [hcons] at hread ⊢
    rw [readExponent?, if_pos (.inl rfl), hread, Option.map_some]
    · congr 1
      have : Int.ofNat i.natAbs = (i.natAbs : Int) := rfl
      omega
    · rintro digits heq
      rw [(List.cons.inj heq).1] at hc
      cases hc
    · rintro digits heq
      rw [(List.cons.inj heq).1] at hc
      cases hc

/-! ## Numbers without a sign -/

theorem toLower_of_isDigit {c : Char} (h : c.isDigit) : c.toLower = c := by
  rw [Char.isDigit, Bool.and_eq_true, decide_eq_true_eq, decide_eq_true_eq] at h
  have hle : c.val ≤ 57 := h.2
  rw [Char.toLower]
  refine dif_neg fun hupper => ?_
  have hge : 65 ≤ c.val := hupper.1
  exact absurd (UInt32.le_trans hge hle) (by decide)

/-- A text that begins with a digit is none of the words for what is no finite number. -/
theorem lowerAscii_ne_of_isDigit {c first : Char} {rest others : List Char} (hc : c.isDigit)
    (hfirst : first.isDigit = false) : lowerAscii (c :: rest) ≠ first :: others := by
  intro heq
  have hhead : c.toLower = first := (List.cons.inj heq).1
  rw [toLower_of_isDigit hc] at hhead
  rw [← hhead, hc] at hfirst
  cases hfirst

/-- A text that begins with a digit is read as digits, with or without a point, and an exponent. -/
theorem readUnsigned?_of_digital {digits rest : List Char} (hdigits : Digital digits)
    (hlength : 0 < digits.length) :
    readUnsigned? (digits ++ rest) =
      let (whole, wholeCount, afterWhole) := takeDigits 0 0 (digits ++ rest)
      let (number, count, rest) :=
        match afterWhole with
        | '.' :: fraction => takeDigits whole wholeCount fraction
        | other => (whole, wholeCount, other)
      if count = 0 then none
      else (readExponent? rest).map fun exponent =>
        scale number count (exponent - (count - wholeCount : Nat)) := by
  obtain ⟨c, others, rfl, hc⟩ := exists_eq_cons_of_digital hdigits hlength
  have hinfinity : ¬(lowerAscii (c :: (others ++ rest)) = ['i', 'n', 'f'] ∨
      lowerAscii (c :: (others ++ rest)) = ['i', 'n', 'f', 'i', 'n', 'i', 't', 'y']) := by
    rintro (h | h)
    · exact lowerAscii_ne_of_isDigit hc rfl h
    · exact lowerAscii_ne_of_isDigit hc rfl h
  exact (if_neg (lowerAscii_ne_of_isDigit hc rfl)).trans (if_neg hinfinity)

/-- Digits without a point. -/
theorem readUnsigned?_whole {digits rest : List Char} {exponent : Int} (hdigits : Digital digits)
    (hlength : 0 < digits.length) (hrest : Stops rest) (hpoint : rest.head? ≠ some '.')
    (hexponent : readExponent? rest = some exponent) :
    readUnsigned? (digits ++ rest) =
      some (scale (Nat.ofDigitChars 10 digits 0) digits.length exponent) := by
  rw [readUnsigned?_of_digital hdigits hlength, takeDigits_append hdigits hrest, Nat.zero_add]
  have hother : ∀ other : List Char, other.head? ≠ some '.' →
      (match other with
        | '.' :: fraction => takeDigits (Nat.ofDigitChars 10 digits 0) digits.length fraction
        | other => (Nat.ofDigitChars 10 digits 0, digits.length, other)) =
      (Nat.ofDigitChars 10 digits 0, digits.length, other) := by
    intro other h
    split
    · exact absurd rfl h
    · rfl
  simp only [hother rest hpoint]
  rw [if_neg hlength.ne', hexponent, Option.map_some, Nat.sub_self, Nat.cast_zero, Int.sub_zero]

/-- Digits with a point among or in front of them. -/
theorem readUnsigned?_fraction {whole fraction rest : List Char} {exponent : Int}
    (hwhole : Digital whole) (hlength : 0 < whole.length) (hfraction : Digital fraction)
    (hrest : Stops rest) (hexponent : readExponent? rest = some exponent) :
    readUnsigned? (whole ++ '.' :: (fraction ++ rest)) =
      some (scale (Nat.ofDigitChars 10 (whole ++ fraction) 0) (whole.length + fraction.length)
        (exponent - fraction.length)) := by
  rw [readUnsigned?_of_digital hwhole hlength, takeDigits_append hwhole (stops_cons rfl _),
    Nat.zero_add]
  simp only [takeDigits_append hfraction hrest]
  rw [if_neg (by omega), hexponent, Option.map_some, Nat.ofDigitChars_append,
    Nat.add_sub_cancel_left]

/-- `ReadAs text x`: the text begins with a digit, and what it holds is scaled to the double of `x`. No
more digits are counted than there are. -/
structure ReadAs (text : List Char) (x : ℚ) : Prop where
  head : ∃ c rest, text = c :: rest ∧ c.isDigit
  scaled : ∃ number count power, readUnsigned? text = some (scale number count power) ∧
    number < 10 ^ count ∧ (number : ℚ) * 10 ^ power = x

theorem readAs_whole {digits rest : List Char} {exponent : Int} (hdigits : Digital digits)
    (hlength : 0 < digits.length) (hrest : Stops rest) (hpoint : rest.head? ≠ some '.')
    (hexponent : readExponent? rest = some exponent) :
    ReadAs (digits ++ rest) (Nat.ofDigitChars 10 digits 0 * 10 ^ exponent) := by
  refine ⟨?_, _, _, _, readUnsigned?_whole hdigits hlength hrest hpoint hexponent,
    ofDigitChars_lt hdigits, rfl⟩
  obtain ⟨c, others, rfl, hc⟩ := exists_eq_cons_of_digital hdigits hlength
  exact ⟨c, _, rfl, hc⟩

theorem readAs_fraction {whole fraction rest : List Char} {exponent : Int}
    (hwhole : Digital whole) (hlength : 0 < whole.length) (hfraction : Digital fraction)
    (hrest : Stops rest) (hexponent : readExponent? rest = some exponent) :
    ReadAs (whole ++ '.' :: (fraction ++ rest))
      (Nat.ofDigitChars 10 (whole ++ fraction) 0 * 10 ^ (exponent - fraction.length)) := by
  refine ⟨?_, _, _, _, readUnsigned?_fraction hwhole hlength hfraction hrest hexponent, ?_, rfl⟩
  · obtain ⟨c, others, rfl, hc⟩ := exists_eq_cons_of_digital hwhole hlength
    exact ⟨c, _, rfl, hc⟩
  · rw [← List.length_append]
    exact ofDigitChars_lt (hwhole.append hfraction)

/-! ## Layouts -/

/-- Zeros behind a number multiply it by ten each. -/
theorem ofDigitChars_natDigits_zeros (n zeros : Nat) :
    Nat.ofDigitChars 10 (natDigits n ++ List.replicate zeros '0') 0 = n * 10 ^ zeros := by
  rw [Nat.ofDigitChars_append, ofDigitChars_natDigits, Nat.ofDigitChars_replicate_zero, Nat.mul_comm]

/-- Zeros in front of a number do not change it. -/
theorem ofDigitChars_zeros_natDigits (n zeros : Nat) :
    Nat.ofDigitChars 10 (List.replicate zeros '0' ++ natDigits n) 0 = n := by
  rw [Nat.ofDigitChars_append, Nat.ofDigitChars_replicate_zero, Nat.mul_zero, ofDigitChars_natDigits]

/-- A whole number is read, with a zero behind the point or without a point. -/
theorem readAs_wholeText (keepsPoint : Bool) (number zeros : Nat) :
    ReadAs (natDigits number ++ List.replicate zeros '0' ++ (if keepsPoint then ['.', '0'] else []))
      (number * 10 ^ zeros) := by
  have hdigits := (digital_natDigits number).append (digital_replicate zeros)
  have hlength : 0 < (natDigits number ++ List.replicate zeros '0').length := by
    have := natDigits_length_pos number
    rw [List.length_append]
    omega
  cases keepsPoint with
  | true =>
    have hread := readAs_fraction hdigits hlength (digital_replicate 1) stops_nil rfl
    have hvalue : (Nat.ofDigitChars 10 (natDigits number ++ List.replicate zeros '0' ++
        List.replicate 1 '0') 0 : ℚ) * 10 ^ ((0 : Int) - (List.replicate 1 '0').length) =
        number * 10 ^ zeros := by
      rw [List.append_assoc, List.replicate_append_replicate, ofDigitChars_natDigits_zeros,
        List.length_replicate, zero_sub, zpow_neg, zpow_natCast, pow_one, Nat.pow_succ]
      push_cast
      field_simp
    exact hvalue ▸ hread
  | false =>
    have hread := readAs_whole hdigits hlength stops_nil (by decide) rfl
    rw [ofDigitChars_natDigits_zeros, zpow_zero, mul_one] at hread
    exact_mod_cast hread

/-- Digits behind the point, with zeros in front of them, are read. -/
theorem readAs_fractionText {number places : Nat} (h : (natDigits number).length ≤ places) :
    ReadAs ('0' :: '.' :: List.replicate (places - (natDigits number).length) '0' ++
      natDigits number) (number * 10 ^ (-(places : Int))) := by
  have hzero : Digital ['0'] := digital_replicate 1
  have hread := readAs_fraction hzero one_pos
    ((digital_replicate (places - (natDigits number).length)).append (digital_natDigits number))
    stops_nil rfl
  rw [← List.append_assoc, show ['0'] = List.replicate 1 '0' from rfl,
    List.replicate_append_replicate, ofDigitChars_zeros_natDigits, List.length_append,
    List.length_replicate, Nat.sub_add_cancel h, zero_sub, List.append_nil] at hread
  exact hread

/-- Digits with a point among them are read. -/
theorem readAs_pointText {number places : Nat} (h : places < (natDigits number).length) :
    ReadAs ((natDigits number).take ((natDigits number).length - places) ++
      '.' :: (natDigits number).drop ((natDigits number).length - places))
      (number * 10 ^ (-(places : Int))) := by
  have hread := readAs_fraction
    ((digital_natDigits number).take ((natDigits number).length - places))
    (by rw [List.length_take]; omega)
    ((digital_natDigits number).drop ((natDigits number).length - places)) stops_nil rfl
  rw [List.take_append_drop, ofDigitChars_natDigits, List.length_drop, zero_sub,
    List.append_nil, Nat.sub_sub_self h.le] at hread
  exact hread

/-- A decimal in positions is read as the number that it stands for. -/
theorem readAs_positionalText (keepsPoint : Bool) (digits : Digits) :
    ReadAs (positionalText keepsPoint digits) digits.value := by
  obtain ⟨number, power⟩ := digits
  rw [positionalText, Digits.value]
  simp only
  split
  · obtain ⟨zeros, rfl⟩ := Int.eq_ofNat_of_zero_le ‹0 ≤ power›
    rw [zpow_natCast]
    exact readAs_wholeText keepsPoint number zeros
  · obtain ⟨places, hplaces⟩ := Int.eq_ofNat_of_zero_le (show 0 ≤ -power by omega)
    obtain rfl : power = -places := by omega
    rw [hplaces, Int.toNat_natCast]
    split
    · exact readAs_fractionText ‹_›
    · exact readAs_pointText (Nat.lt_of_not_le ‹_›)

/-- A decimal with an exponent is read as the number that it stands for. -/
theorem readAs_exponentText (digits : Digits) : ReadAs (exponentText digits) digits.value := by
  obtain ⟨number, power⟩ := digits
  have hlength := natDigits_length_pos number
  rw [exponentText]
  simp only [Digits.value]
  split
  · -- a single digit
    have hone : (natDigits number).take 1 = natDigits number := List.take_of_length_le ‹_›
    have hread := readAs_whole (digital_natDigits number) hlength (stops_cons rfl _) (by simp)
      (readExponent?_intDigits (power + ((natDigits number).length - 1 : Nat)))
    rw [ofDigitChars_natDigits] at hread
    have hlead : power + (((natDigits number).length - 1 : Nat) : Int) = power := by omega
    rw [hlead] at hread
    rw [hone, List.append_nil, hlead]
    exact hread
  · have hread := readAs_fraction ((digital_natDigits number).take 1)
      (by rw [List.length_take]; omega) ((digital_natDigits number).drop 1) (stops_cons rfl _)
      (readExponent?_intDigits (power + ((natDigits number).length - 1 : Nat)))
    rw [List.take_append_drop, ofDigitChars_natDigits, List.length_drop, add_sub_cancel_right]
      at hread
    rw [List.append_assoc]
    exact hread

end Georef.Decimal
