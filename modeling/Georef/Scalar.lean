import Georef.Word

/-!
# Numbers to compute with

Grid and raster formulas are written once, over any type of numbers that offers the operations of
`Scalar`. Two types do: doubles, which round after every operation, and exact fractions, over which
the same formulas are the mathematical ones.

Operations are applied in the order in which a formula is written: rounding makes the order part
of the result.
-/

namespace Georef

/-- The operations that the formulas of this library use. -/
class Scalar (α : Type) extends Add α, Sub α, Mul α, Div α, Neg α where
  /-- The value of a natural number below `2 ^ 64`. -/
  ofNat : Nat → α
  /-- The value of an integer that fits 32 bits. -/
  ofInt : Int → α
  /-- The number `digits / 10 ^ places`. -/
  decimal : (digits places : Nat) → α
  /-- The value of a stored single. -/
  ofSingle : Binary32 → α
  /-- The value of a stored double. -/
  ofDouble : Binary64 → α
  /-- The nearest double. -/
  toDouble : α → Binary64
  /-- The result of an operation that has none. -/
  undefined : α
  /-- Whether the first number is less; an undefined one never is. -/
  lt : α → α → Bool
  /-- Whether the first number is at most the second; undefined ones never compare. -/
  le : α → α → Bool
  /-- Whether the number is neither infinite nor undefined. -/
  isFinite : α → Bool
  /-- The number without its sign. -/
  abs : α → α
  /-- The nearest whole number; halves go away from zero. -/
  round : α → α
  /-- The greatest natural number that is at most the argument, within what the type can count;
  zero for negative and undefined arguments. -/
  floorNat : α → Nat
  /-- A total order that agrees with `le`: the undefined number comes before all others, and
  negative zero before positive zero. -/
  precedes : α → α → Bool
  /-- The least of the numbers, undefined ones left out. -/
  least : List α → α
  /-- The greatest of the numbers, undefined ones left out. -/
  greatest : List α → α

namespace Scalar

variable {α : Type} [Scalar α]

/-- Whether the first number is greater. -/
def gt (a b : α) : Bool := lt b a

/-- Whether the first number is at least the second. -/
def ge (a b : α) : Bool := le b a

/-- Whether two numbers are equal; undefined ones never are. -/
def equal (a b : α) : Bool := le a b && le b a

/-- Whether a number lies between two bounds, both included. -/
def between (low high a : α) : Bool := ge a low && le a high

end Scalar

/-! ## Doubles -/

/-- The place of a double in the total order, as an integer: the word read as sign and magnitude,
with all undefined values at the bottom. -/
def Binary64.rank (x : Binary64) : Int :=
  match x.value with
  | .undefined => -0x10000000000000000
  | _ =>
    let word := x.bits.toNat
    if 0x8000000000000000 ≤ word then -(word - 0x8000000000000000 : Nat) - 1 else word

open Float.Model (UnpackedFloat) in
/-- The nearest whole number to a double; halves go away from zero, and the sign stays. -/
def roundDouble (x : Float) : Float :=
  match x.toModel.unpack with
  | .finite sign significand (.negSucc places) _ =>
    let whole := (significand + 1 <<< places) >>> (places + 1)
    match sign with
    | .negative => -whole.toUInt64.toFloat
    | .positive => whole.toUInt64.toFloat
  | _ => x

instance : Scalar Float where
  ofNat n := n.toUInt64.toFloat
  ofInt
    | .ofNat n => n.toUInt64.toFloat
    | .negSucc n => -(n + 1).toUInt64.toFloat
  decimal digits places := Float.ofScientific digits true places
  ofSingle := Binary32.toFloat
  ofDouble := Binary64.toFloat
  toDouble := Binary64.ofFloat
  undefined := 0.0 / 0.0
  lt a b := a < b
  le a b := a ≤ b
  isFinite := Float.isFinite
  abs := Float.abs
  round := roundDouble
  floorNat a := a.toUInt64.toNat
  precedes a b := (Binary64.ofFloat a).rank ≤ (Binary64.ofFloat b).rank
  least := List.foldl (fun a b => if b < a || a.isNaN then b else a) (1.0 / 0.0)
  greatest := List.foldl (fun a b => if b > a || a.isNaN then b else a) (-1.0 / 0.0)

/-! ## Exact fractions -/

/-- The nearest whole number; halves go away from zero. -/
def roundRat (a : Rat) : Rat :=
  if a < 0 then -(((-a) + mkRat 1 2).floor : Rat) else ((a + mkRat 1 2).floor : Rat)

instance : Scalar Rat where
  ofNat n := (n : Rat)
  ofInt i := (i : Rat)
  decimal digits places := mkRat digits (Nat.pow 10 places)
  ofSingle x := x.value.toRat
  ofDouble x := x.value.toRat
  toDouble a := Binary64.ofFloat (Float.ofInt a.num / Float.ofNat a.den)
  undefined := 0
  lt a b := a < b
  le a b := a ≤ b
  isFinite _ := true
  abs a := if a < 0 then -a else a
  round := roundRat
  floorNat a := a.floor.toNat
  precedes a b := a ≤ b
  least
    | [] => 0
    | a :: rest => rest.foldl (fun a b => if b < a then b else a) a
  greatest
    | [] => 0
    | a :: rest => rest.foldl (fun a b => if b > a then b else a) a

end Georef
