import Georef.Decimal.Shortest

/-!
# Decimal text of doubles

A double is written with the fewest digits that read back. Where its leading digit stands decides
whether it is written in positions or with an exponent; a layout says where the bounds are, and
whether a whole number keeps a point.

* `Layout.plain`, `Layout.precise`, `Layout.table`: the three layouts in use.
* `Layout.write`: the text of a double in a layout.
* `fixedPlaces`: the text with a given number of places, rounded from the exact value.
-/

namespace Georef.Decimal

/-- How the digits of a number are laid out. -/
structure Layout where
  /-- Whether a number is written in positions, given the exponent of its leading digit. -/
  positional : Int → Bool
  /-- Whether a whole number in positions ends in a point and a zero. -/
  keepsPoint : Bool
  /-- Which of two equally near decimals is written. -/
  tie : Tie

namespace Layout

/-- Always in positions, and whole numbers without a point. -/
def plain : Layout where
  positional _ := true
  keepsPoint := false
  tie := .away

/-- In positions from `0.0001` up to `10 ^ 16`, whole numbers with a point. -/
def precise : Layout where
  positional lead := -4 ≤ lead && lead < 16
  keepsPoint := true
  tie := .away

/-- In positions from `0.00001` up to `10 ^ 16`, whole numbers with a point. -/
def table : Layout where
  positional lead := -5 ≤ lead && lead < 16
  keepsPoint := true
  tie := .toEven

end Layout

/-- The decimal digits of a natural number. -/
def natDigits (n : Nat) : List Char :=
  Nat.toDigits 10 n

/-- The decimal digits of an integer, with a sign if it is negative. -/
def intDigits (i : Int) : List Char :=
  if i < 0 then '-' :: natDigits i.natAbs else natDigits i.natAbs

/-- A decimal in positions. -/
def positionalText (keepsPoint : Bool) (digits : Digits) : List Char :=
  let text := natDigits digits.number
  if 0 ≤ digits.power then
    text ++ List.replicate digits.power.toNat '0' ++ (if keepsPoint then ['.', '0'] else [])
  else
    let places := (-digits.power).toNat
    -- digits that do not reach the point need zeros in front
    if text.length ≤ places then
      '0' :: '.' :: List.replicate (places - text.length) '0' ++ text
    else text.take (text.length - places) ++ '.' :: text.drop (text.length - places)

/-- A decimal with one digit before the point and an exponent. -/
def exponentText (digits : Digits) : List Char :=
  let text := natDigits digits.number
  let exponent := digits.power + (text.length - 1 : Nat)
  text.take 1 ++ (if text.length ≤ 1 then [] else '.' :: text.drop 1) ++
    'e' :: intDigits exponent

/-- The text of a double. -/
def Layout.write (layout : Layout) (x : Binary64) : String :=
  match x.value with
  | .undefined => "NaN"
  | .infinite negative => if negative then "-inf" else "inf"
  | .finite negative significand exponent =>
    let digits := shortest layout.tie significand exponent
    let lead := digits.power + ((natDigits digits.number).length - 1 : Nat)
    let text :=
      if digits.number = 0 ∨ layout.positional lead then positionalText layout.keepsPoint digits
      else exponentText digits
    String.ofList (if negative then '-' :: text else text)

/-- The quotient rounded to the nearest whole number, a half to the even neighbour. -/
def roundDiv (num den : Nat) : Nat :=
  let quotient := num / den
  let twice := 2 * (num % den)
  if twice < den ∨ (twice = den ∧ quotient % 2 = 0) then quotient else quotient + 1

/-- The text of a double with `places` digits after the point. -/
def fixedPlaces (places : Nat) (x : Binary64) : String :=
  match x.value with
  | .undefined => "NaN"
  | .infinite negative => if negative then "-inf" else "inf"
  | .finite negative significand exponent =>
    let (up, down) := powerOfTwo exponent
    let number := roundDiv (significand * up * Nat.pow 10 places) down
    let digits := natDigits number
    -- at least one digit stands in front of the point
    let padded := List.replicate (places + 1 - digits.length) '0' ++ digits
    let whole := padded.take (padded.length - places)
    let text := if places = 0 then whole else whole ++ '.' :: padded.drop whole.length
    String.ofList (if negative then '-' :: text else text)

end Georef.Decimal

namespace Georef.Binary64

/-- The text in positions, whole numbers without a point. -/
def display (x : Binary64) : String :=
  Decimal.Layout.plain.write x

/-- The text that keeps the point, with an exponent for very small and very large numbers. -/
def displayPrecise (x : Binary64) : String :=
  Decimal.Layout.precise.write x

end Georef.Binary64
