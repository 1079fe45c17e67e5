import Georef.Word

/-!
# The fewest digits that read back

A double is the nearest one to every real number of an interval around it. Among the decimals of
that interval those with the fewest digits are looked for, and of these the one nearest to the
double is taken.

With `k` digits the decimals near a number form a grid; if any point of the grid lies in the
interval, then so does one of the number's two neighbours on the grid. The search therefore tests
two points for each `k`, in exact arithmetic, and ends at 17 digits at the latest, where the grid is
finer than the interval.

* `Digits`: a decimal as a whole number and a power of ten.
* `shortest`: the decimal chosen for `significand * 2 ^ exponent`.
-/

namespace Georef.Decimal

/-- The decimal number `number * 10 ^ power`. -/
structure Digits where
  number : Nat
  power : Int
  deriving DecidableEq, Repr

/-- Which of two equally near decimals is taken. -/
inductive Tie where
  /-- The one further from zero. -/
  | away
  /-- The one with the even last digit. -/
  | toEven
  deriving DecidableEq, Repr

/-- The power of ten with a natural exponent, or its reciprocal, as a pair of factors for numerator
and denominator. -/
def powerOfTen (power : Int) : Nat × Nat :=
  if 0 ≤ power then (Nat.pow 10 power.toNat, 1) else (1, Nat.pow 10 (-power).toNat)

/-- The power of two as a pair of factors for numerator and denominator. -/
def powerOfTwo (power : Int) : Nat × Nat :=
  if 0 ≤ power then (1 <<< power.toNat, 1) else (1, 1 <<< (-power).toNat)

/-- Whether `10 ^ power ≤ num / den`. -/
def tenPowerLe (power : Int) (num den : Nat) : Bool :=
  let (up, down) := powerOfTen power
  up * den ≤ num * down

/-- The exponent `p` with `10 ^ p ≤ num / den < 10 ^ (p + 1)`, corrected upwards step by step from
a start that is too low by at most `fuel`. -/
def leadingPower (num den : Nat) : (fuel : Nat) → (start : Int) → Int
  | 0, start => start
  | fuel + 1, start =>
    if tenPowerLe (start + 1) num den then leadingPower num den fuel (start + 1) else start

/-- The decimal exponent of the leading digit of `num / den`, which is positive. -/
def magnitude (num den : Nat) : Int :=
  -- an estimate from the number of binary digits, which is never too high
  let bits : Int := (Nat.log2 num : Int) - (Nat.log2 den : Int) - 1
  leadingPower num den 4 ((bits * 30103).fdiv 100000 - 1)

/-- A decimal without zeros at its end. -/
def Digits.strip : (fuel : Nat) → Digits → Digits
  | 0, digits => digits
  | fuel + 1, digits =>
    if digits.number % 10 = 0 ∧ digits.number ≠ 0 then
      strip fuel ⟨digits.number / 10, digits.power + 1⟩
    else digits

/-- The chosen decimal on the grid of multiples of `10 ^ power`, if one lies in the interval. The
number is `num / den` and the interval reaches from `low / den` to `high / den`; `closed` says
whether its ends belong to it. -/
def onGrid? (tie : Tie) (closed : Bool) (num low high den : Nat) (power : Int) : Option Digits :=
  let (up, down) := powerOfTen power
  -- in units of `1 / (den * down)` the grid consists of the multiples of `unit`
  let unit := up * den
  let below := num * down / unit
  let inside (k : Nat) : Bool :=
    if closed then low * down ≤ k * unit && k * unit ≤ high * down
    else low * down < k * unit && k * unit < high * down
  let above := below + 1
  let toBelow := num * down - below * unit
  let toAbove := above * unit - num * down
  let preferAbove := toAbove < toBelow ||
    (toAbove == toBelow && (tie == .away || below % 2 == 1))
  match inside below, inside above with
  | false, false => none
  | true, false => some ⟨below, power⟩
  | false, true => some ⟨above, power⟩
  | true, true => some ⟨if preferAbove then above else below, power⟩

/-- The first grid, from `digits` digits on, that has a point in the interval. -/
def search (tie : Tie) (closed : Bool) (num low high den : Nat) (lead : Int) :
    (fuel digits : Nat) → Digits
  | 0, _ => ⟨0, 0⟩
  | fuel + 1, digits =>
    match onGrid? tie closed num low high den (lead - digits + 1) with
    | some found => found
    | none => search tie closed num low high den lead fuel (digits + 1)

/-- The shortest decimal that reads back as the double `significand * 2 ^ exponent`. The interval
reaches half way to the neighbours, of which the lower one is nearer below a power of two; its ends
read back if the significand is even. -/
def shortest (tie : Tie) (significand : Nat) (exponent : Int) : Digits :=
  if significand = 0 then ⟨0, 0⟩
  else
    let (up, down) := powerOfTwo (exponent - 2)
    let num := 4 * significand * up
    -- everything is counted in quarters, so that half the smaller gap is a whole number
    let lowGap := if significand = 0x10000000000000 ∧ exponent ≠ -1074 then 1 else 2
    let low := (4 * significand - lowGap) * up
    let high := (4 * significand + 2) * up
    (search tie (significand % 2 == 0) num low high down (magnitude num down) 17 1).strip 17

end Georef.Decimal
