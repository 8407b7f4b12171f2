import MemberAddress.Text.Basic

/-!
# Notations of whole numbers

A format may ask for a whole number with a number of decimal places, with an exponent, or with a
number of significant digits.

* `Text.fixed` writes decimal places, `Text.exponential` an exponent, `Text.general` whichever of
  the two suits the size of the number;
* `Text.significant` rounds to a number of digits, a half to the even neighbour.

A full notation keeps the point before no places, and zeros at the end.
-/

namespace MemberAddress.Text

/-- A point and zeros after it; without zeros the point stands only in a full notation. -/
def zeroPlaces (full : Bool) (places : Nat) : Text :=
  if places = 0 ∧ !full then [] else '.' :: List.replicate places '0'

/-- A whole number with decimal places. -/
def fixed (full : Bool) (places n : Nat) : Text := decimal n ++ zeroPlaces full places

/-- A natural number rounded to `count` digits or fewer, and the exponent of ten of its first
digit. -/
def significant (count n : Nat) : Text × Nat :=
  let digits := decimal n
  if digits.length ≤ count then (digits, digits.length - 1)
  else
    let unit := Nat.pow 10 (digits.length - count)
    let quotient := n / unit
    let twice := 2 * (n % unit)
    let up := unit < twice ∨ (twice = unit ∧ quotient % 2 = 1)
    let rounded := decimal (if up then quotient + 1 else quotient)
    (rounded.take count, digits.length - 1 + (rounded.length - count))

/-- A text without the zeros at its end. -/
def withoutZeros (t : Text) : Text := (t.reverse.dropWhile (· == '0')).reverse

/-- Digits with a point after the first of them and an exponent of at least two digits. -/
def withExponent (full : Bool) (digits : Text) (exponent : Nat) : Text :=
  let places := digits.drop 1
  digits.take 1 ++ (if places.isEmpty && !full then [] else '.' :: places) ++ "e+".toList ++
    padded 2 exponent

/-- A whole number with an exponent and a number of places. -/
def exponential (full : Bool) (places n : Nat) : Text :=
  let (digits, exponent) := significant (places + 1) n
  withExponent full (digits ++ List.replicate (places + 1 - digits.length) '0') exponent

/-- A whole number in a number of digits, with an exponent if it has more of them. -/
def general (full : Bool) (count n : Nat) : Text :=
  let count := max 1 count
  let (digits, exponent) := significant count n
  if exponent < count then
    if full then fixed true (count - 1 - exponent) n else decimal n
  else if full then exponential true (count - 1) n
  else withExponent false (digits.take 1 ++ withoutZeros (digits.drop 1)) exponent

end MemberAddress.Text
