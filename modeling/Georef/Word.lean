import Georef.ByteOrder

/-!
# Values of a fixed width

The numbers a binary file holds all take a fixed number of bytes. `FixedWidth` says how one is
read from and written to its bytes in a byte order; the two are inverse to each other, for every
instance, by the laws that the class carries.

Floating-point numbers are kept as the words they are stored in, `Binary32` and `Binary64`, so
that a value that is read and written again keeps every bit.
-/

namespace Georef

/-! ## Types -/

/-- An IEEE-754 single, as its stored word. -/
structure Binary32 where
  /-- Sign, eight bits of exponent and 23 bits of significand. -/
  bits : UInt32
  deriving DecidableEq, Repr, Inhabited

/-- An IEEE-754 double, as its stored word. -/
structure Binary64 where
  /-- Sign, eleven bits of exponent and 52 bits of significand. -/
  bits : UInt64
  deriving DecidableEq, Repr, Inhabited

/-- A fraction as stored: its two terms, which need not be reduced. -/
structure Fraction (ι : Type) where
  numerator : ι
  denominator : ι
  deriving DecidableEq, Repr, Inhabited

/-- A signed fixed-point number with sixteen bits on either side of the point. -/
structure Fixed16 where
  /-- The number of 65536ths. -/
  parts : Int32
  deriving DecidableEq, Repr, Inhabited

/-- Values that take a fixed number of bytes. -/
class FixedWidth (α : Type) where
  /-- The number of bytes a value takes. -/
  width : Nat
  /-- The value that `width` bytes hold. -/
  decode : ByteOrder → List UInt8 → α
  /-- The bytes of a value. -/
  encode : ByteOrder → α → List UInt8
  length_encode : ∀ order a, (encode order a).length = width
  decode_encode : ∀ order a, decode order (encode order a) = a
  encode_decode : ∀ order bytes, bytes.length = width → encode order (decode order bytes) = bytes

namespace FixedWidth

/-- A type of words: its values correspond to the numbers of at most `width` bytes. -/
@[reducible] def ofNumbers {α : Type} (width : Nat) (ofNat : Nat → α) (toNat : α → Nat)
    (toNat_lt : ∀ a, toNat a < byteBound width) (ofNat_toNat : ∀ a, ofNat (toNat a) = a)
    (toNat_ofNat : ∀ n, n < byteBound width → toNat (ofNat n) = n) : FixedWidth α where
  width := width
  decode order bytes := ofNat (order.decode bytes)
  encode order a := order.encode width (toNat a)
  length_encode order a := order.length_encode width (toNat a)
  decode_encode order a := by rw [order.decode_encode (toNat_lt a), ofNat_toNat]
  encode_decode order bytes h := by
    -- the number read from so many bytes is below the bound that the conversion asks for
    have hlt := order.decode_lt bytes
    rw [h] at hlt
    rw [toNat_ofNat _ hlt, ← h, order.encode_decode]

end FixedWidth

/-! ## Instances -/

instance : FixedWidth UInt8 :=
  .ofNumbers 1 UInt8.ofNat UInt8.toNat (fun a => a.toNat_lt) (fun _ => UInt8.ofNat_toNat)
    (fun _ h => UInt8.toNat_ofNat_of_lt h)

instance : FixedWidth UInt16 :=
  .ofNumbers 2 UInt16.ofNat UInt16.toNat (fun a => a.toNat_lt) (fun _ => UInt16.ofNat_toNat)
    (fun _ h => UInt16.toNat_ofNat_of_lt h)

instance : FixedWidth UInt32 :=
  .ofNumbers 4 UInt32.ofNat UInt32.toNat (fun a => a.toNat_lt) (fun _ => UInt32.ofNat_toNat)
    (fun _ h => UInt32.toNat_ofNat_of_lt h)

instance : FixedWidth UInt64 :=
  .ofNumbers 8 UInt64.ofNat UInt64.toNat (fun a => a.toNat_lt) (fun _ => UInt64.ofNat_toNat)
    (fun _ h => UInt64.toNat_ofNat_of_lt h)

/-- A type whose values are those of another one under a renaming. -/
@[reducible] def FixedWidth.rename {α β : Type} [base : FixedWidth α] (f : α → β) (g : β → α)
    (hfg : ∀ b, f (g b) = b) (hgf : ∀ a, g (f a) = a) : FixedWidth β where
  width := base.width
  decode order bytes := f (base.decode order bytes)
  encode order b := base.encode order (g b)
  length_encode order b := base.length_encode order (g b)
  decode_encode order b := by rw [base.decode_encode, hfg]
  encode_decode order bytes h := by rw [hgf, base.encode_decode order bytes h]

instance : FixedWidth Int8 :=
  .rename UInt8.toInt8 Int8.toUInt8 (fun _ => rfl) (fun _ => rfl)

instance : FixedWidth Int16 :=
  .rename UInt16.toInt16 Int16.toUInt16 (fun _ => rfl) (fun _ => rfl)

instance : FixedWidth Int32 :=
  .rename UInt32.toInt32 Int32.toUInt32 (fun _ => rfl) (fun _ => rfl)

instance : FixedWidth Int64 :=
  .rename UInt64.toInt64 Int64.toUInt64 (fun _ => rfl) (fun _ => rfl)

instance : FixedWidth Binary32 :=
  .rename Binary32.mk Binary32.bits (fun _ => rfl) (fun _ => rfl)

instance : FixedWidth Binary64 :=
  .rename Binary64.mk Binary64.bits (fun _ => rfl) (fun _ => rfl)

instance : FixedWidth Fixed16 :=
  .rename Fixed16.mk Fixed16.parts (fun _ => rfl) (fun _ => rfl)

/-- The numerator is stored before the denominator, each in the byte order of the file. -/
instance {ι : Type} [base : FixedWidth ι] : FixedWidth (Fraction ι) where
  width := base.width + base.width
  decode order bytes :=
    { numerator := base.decode order (bytes.take base.width)
      denominator := base.decode order (bytes.drop base.width) }
  encode order a := base.encode order a.numerator ++ base.encode order a.denominator
  length_encode order a := by simp [base.length_encode]
  decode_encode order a := by
    have h := base.length_encode order a.numerator
    simp [← h, base.decode_encode]
  encode_decode order bytes h := by
    have h₁ : (bytes.take base.width).length = base.width := by simp; omega
    have h₂ : (bytes.drop base.width).length = base.width := by simp; omega
    simp [base.encode_decode order _ h₁, base.encode_decode order _ h₂]

/-! ## Floating-point words as numbers -/

/-- What a floating-point word stands for. -/
inductive FloatValue where
  /-- No number. -/
  | undefined
  /-- An infinity of either sign. -/
  | infinite (negative : Bool)
  /-- The number `±significand · 2 ^ exponent`; zero has a sign too. -/
  | finite (negative : Bool) (significand : Nat) (exponent : Int)
  deriving DecidableEq, Repr

/-- The value of a word with `fieldBits` significand bits and exponents counted from `-bias`.
An all-zero exponent field has no leading one; an all-one field, `top`, is no finite number. -/
def FloatValue.ofWord (fieldBits top bias : Nat) (negative : Bool) (word : Nat) : FloatValue :=
  -- the significand field is lowest, the exponent field next to it
  let field := word % (1 <<< fieldBits)
  let exponent := (word >>> fieldBits) % (top + 1)
  if exponent = top then
    if field = 0 then .infinite negative else .undefined
  else if exponent = 0 then
    .finite negative field (1 - (bias + fieldBits : Nat))
  else
    .finite negative ((1 <<< fieldBits) + field) (exponent - (bias + fieldBits : Nat))

/-- The value of a double. -/
def Binary64.value (x : Binary64) : FloatValue :=
  let word := x.bits.toNat
  .ofWord 52 2047 1023 (0x8000000000000000 ≤ word) word

/-- The value of a single. -/
def Binary32.value (x : Binary32) : FloatValue :=
  let word := x.bits.toNat
  .ofWord 23 255 127 (0x80000000 ≤ word) word

/-- The value as an exact fraction; infinities and undefined values count as zero. -/
def FloatValue.toRat : FloatValue → Rat
  | .finite negative significand exponent =>
    let magnitude : Rat :=
      match exponent with
      | .ofNat e => ((significand <<< e : Nat) : Rat)
      | .negSucc e => mkRat significand (1 <<< (e + 1))
    if negative then -magnitude else magnitude
  | _ => 0

namespace Binary64

/-- The double held in a machine register. -/
def toFloat (x : Binary64) : Float :=
  Float.ofBits x.bits

/-- The word of a double held in a machine register; undefined values share one word. -/
def ofFloat (x : Float) : Binary64 :=
  ⟨x.toBits⟩

end Binary64

/-- The double of the same value; every single has one. -/
def Binary32.toFloat (x : Binary32) : Float :=
  (Float32.ofBits x.bits).toFloat

end Georef
