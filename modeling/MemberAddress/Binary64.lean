import MemberAddress.Text.Basic

/-!
# Binary floating-point numbers

A configuration may hold a number with a fraction. It is a binary number of 53 significant bits,
and is shown in the fewest decimal digits that read back as the same number.

* `Binary64.ofRatio`, `Binary64.ofInt?` and `Binary64.ofDecimal` give the nearest such number, ties
  to even;
* `Binary64.shortestDigits` finds the fewest digits;
* `Binary64.text` writes them: positionally from a ten-thousandth up to ten to the sixteenth,
  always with a point, and with an exponent of at least two digits elsewhere;
* `Binary64.integerPart?` leaves the fraction out;
* `Binary64.times` and `Binary64.plus` round the exact product or sum;
* `Binary64.lessThan` compares two numbers.
-/

namespace MemberAddress

/-- A binary number: `mantissa * 2 ^ exponent` with a sign, an infinity, or no number at all. What is
no number equals nothing but itself, and is told apart by a mark. -/
inductive Binary64
  | finite (negative : Bool) (mantissa : Nat) (exponent : Int)
  | infinite (negative : Bool)
  | notANumber (mark : Nat)
  deriving DecidableEq, Repr

namespace Binary64

/-! ### Reading -/

/-- The least exponent. -/
def leastExponent : Int := -1074

/-- The greatest exponent of a number with 53 bits. -/
def greatestExponent : Int := 971

/-- The ratio `num / den`, divided by `2 ^ e`, as a ratio of natural numbers. -/
def scaleDown (num den : Nat) : Int → Nat × Nat
  | .ofNat e => (num, den <<< e)
  | .negSucc e => (num <<< (e + 1), den)

/-- The natural number nearest to a ratio, a tie to the even one. -/
def roundHalfEven (num den : Nat) : Nat :=
  let quotient := num / den
  let twice := 2 * (num % den)
  if twice < den then quotient
  else if den < twice then quotient + 1
  else quotient + quotient % 2

/-- The binary number nearest to a positive or zero ratio, with the given sign. -/
def ofRatio (negative : Bool) (num den : Nat) : Binary64 :=
  if num = 0 then .finite negative 0 leastExponent
  else
    let guess : Int := (num.log2 : Int) - (den.log2 : Int) - 52
    let scaled := scaleDown num den guess
    let exponent := max leastExponent (if scaled.1 / scaled.2 < 1 <<< 52 then guess - 1 else guess)
    let ratio := scaleDown num den exponent
    let mantissa := roundHalfEven ratio.1 ratio.2
    let carried := mantissa = 1 <<< 53
    let exponent' := if carried then exponent + 1 else exponent
    if greatestExponent < exponent' then .infinite negative
    else .finite negative (if carried then 1 <<< 52 else mantissa) exponent'

/-- The binary number nearest to an integer, unless the integer is too large for any. -/
def ofInt? (n : Int) : Option Binary64 :=
  match ofRatio (n < 0) n.natAbs 1 with
  | .infinite _ => none
  | x => some x

/-- The binary number nearest to `digits * 10 ^ exponent`. Beyond four hundred places the answer
is an infinity or zero whatever the digits. -/
def ofDecimal (negative : Bool) (digits : Nat) (exponent : Int) : Binary64 :=
  let places : Int := exponent + (Text.decimal digits).length
  if digits = 0 ∨ places < -400 then .finite negative 0 leastExponent
  else if 400 < places then .infinite negative
  else
    match exponent with
    | .ofNat e => ofRatio negative (digits * Nat.pow 10 e) 1
    | .negSucc e => ofRatio negative digits (Nat.pow 10 (e + 1))

/-! ### Writing -/

/-- The greatest `e` with `10 ^ e ≤ num / den`, for a positive ratio. -/
def decimalExponent (num den : Nat) : Int :=
  if den ≤ num then (Text.decimal (num / den)).length - 1
  else -(((List.range 400).find? fun t => den ≤ num * Nat.pow 10 t).getD 400 : Nat)

/-- A natural number without its trailing zeros, and ten's exponent raised by their number. -/
def dropZeros : Nat → Nat → Int → Nat × Int
  | 0, digits, exponent => (digits, exponent)
  | fuel + 1, digits, exponent =>
    if digits ≠ 0 ∧ digits % 10 = 0 then dropZeros fuel (digits / 10) (exponent + 1)
    else (digits, exponent)

/-- The fewest decimal digits, with the exponent of the last one, that read back as
`mantissa * 2 ^ exponent`: the first grid of 1 to 17 digits on which one of the two neighbours of
the number rounds to it, and of two such neighbours the nearer, or the even one in a tie. -/
def shortestDigits (mantissa : Nat) (exponent : Int) : Nat × Int :=
  let unit := exponent - 2
  let unitUp : Nat := 1 <<< unit.toNat
  let unitDown : Nat := 1 <<< (-unit).toNat
  let middle := 4 * mantissa
  let low := if mantissa = 1 <<< 52 ∧ leastExponent < exponent then middle - 1 else middle - 2
  let high := middle + 2
  let closed := mantissa % 2 = 0
  let leading := decimalExponent (middle * unitUp) unitDown
  let grid (count : Nat) : Option (Nat × Int) :=
    let last : Int := leading - (count - 1 : Nat)
    let tenUp := Nat.pow 10 last.toNat
    let tenDown := Nat.pow 10 (-last).toNat
    let step := tenUp * unitDown
    let scale := unitUp * tenDown
    let below := middle * scale / step
    let belowFits := if closed then low * scale ≤ below * step else low * scale < below * step
    let aboveFits :=
      if closed then (below + 1) * step ≤ high * scale else (below + 1) * step < high * scale
    let toBelow := middle * scale - below * step
    let toAbove := (below + 1) * step - middle * scale
    let belowNearer := toBelow < toAbove ∨ (toBelow = toAbove ∧ below % 2 = 0)
    if belowFits ∧ (belowNearer ∨ ¬aboveFits) then some (below, last)
    else if aboveFits then some (below + 1, last)
    else none
  let found := ((List.range 17).findSome? fun i => grid (i + 1)).getD (mantissa, exponent)
  dropZeros 20 found.1 found.2

/-- Digits with a decimal point after the first `point` of them, filled up with zeros. -/
def positional (digits : Text) (point : Int) : Text :=
  if point ≤ 0 then "0.".toList ++ List.replicate (-point).toNat '0' ++ digits
  else if digits.length ≤ point.toNat then
    digits ++ List.replicate (point.toNat - digits.length) '0' ++ ".0".toList
  else digits.take point.toNat ++ '.' :: digits.drop point.toNat

/-- Digits with a point after the first and an exponent. -/
def scientific (digits : Text) (point : Int) : Text :=
  let exponent := point - 1
  let size := Text.decimal exponent.natAbs
  digits.take 1 ++ (if digits.length ≤ 1 then [] else '.' :: digits.drop 1) ++
    ['e', if exponent < 0 then '-' else '+'] ++ List.replicate (2 - size.length) '0' ++ size

/-- The text of a binary number. -/
def text : Binary64 → Text
  | .notANumber _ => "nan".toList
  | .infinite negative => (if negative then ['-'] else []) ++ "inf".toList
  | .finite negative mantissa exponent =>
    let sign := if negative then ['-'] else []
    if mantissa = 0 then sign ++ "0.0".toList
    else
      let (digits, last) := shortestDigits mantissa exponent
      let digits := Text.decimal digits
      let point := last + digits.length
      sign ++ if -4 < point ∧ point ≤ 16 then positional digits point else scientific digits point

/-! ### Arithmetic -/

/-- The mark of what is no number because a sum or product has no value. -/
def noValueMark : Nat := 0

/-- Whether a number has a minus sign. -/
def isNegative : Binary64 → Bool
  | .finite negative _ _ => negative
  | .infinite negative => negative
  | .notANumber _ => false

/-- The number with the opposite sign. -/
def negate : Binary64 → Binary64
  | .finite negative mantissa exponent => .finite (!negative) mantissa exponent
  | .infinite negative => .infinite (!negative)
  | .notANumber mark => .notANumber mark

/-- What is no number under another mark; all else as it is. -/
def withMark (mark : Nat) : Binary64 → Binary64
  | .notANumber _ => .notANumber mark
  | x => x

/-- A finite number as a ratio of an integer and a natural number. -/
def toRatio? : Binary64 → Option (Int × Nat)
  | .finite negative mantissa exponent =>
    let size : Int := (mantissa <<< exponent.toNat : Nat)
    some (if negative then -size else size, 1 <<< (-exponent).toNat)
  | _ => none

/-- A finite number without its fraction. -/
def integerPart? (x : Binary64) : Option Int := x.toRatio?.map fun (num, den) => num.tdiv den

/-- Whether a number is zero, of either sign. -/
def isZero : Binary64 → Bool
  | .finite _ mantissa _ => mantissa == 0
  | _ => false

/-- The number nearest to a product. -/
def times (x y : Binary64) : Binary64 :=
  let negative := x.isNegative != y.isNegative
  match x, y, x.toRatio?, y.toRatio? with
  | .notANumber mark, _, _, _ => .notANumber mark
  | _, .notANumber mark, _, _ => .notANumber mark
  | _, _, some (a, b), some (c, d) => ofRatio negative (a.natAbs * c.natAbs) (b * d)
  | _, _, _, _ =>
    if x.isZero || y.isZero then .notANumber noValueMark else .infinite negative

/-- The number nearest to a sum. An exact zero has a minus sign only if both parts have one. -/
def plus (x y : Binary64) : Binary64 :=
  match x, y, x.toRatio?, y.toRatio? with
  | .notANumber mark, _, _, _ => .notANumber mark
  | _, .notANumber mark, _, _ => .notANumber mark
  | _, _, some (a, b), some (c, d) =>
    let sum := a * d + c * b
    let negative := if sum = 0 then x.isNegative && y.isNegative else decide (sum < 0)
    ofRatio negative sum.natAbs (b * d)
  | .infinite negative, .infinite negative', _, _ =>
    if negative = negative' then .infinite negative else .notANumber noValueMark
  | .infinite negative, _, _, _ => .infinite negative
  | _, y, _, _ => y

/-! ### Numbers compared -/

/-- Whether one number is less than another; what is no number is never less nor greater. -/
def lessThan (x y : Binary64) : Bool :=
  match x, y, x.toRatio?, y.toRatio? with
  | .notANumber _, _, _, _ => false
  | _, .notANumber _, _, _ => false
  | _, _, some (a, b), some (c, d) => decide (a * d < c * b)
  | .infinite negative, .infinite negative', _, _ => negative && !negative'
  | .infinite negative, _, _, _ => negative
  | _, y, _, _ => !y.isNegative

/-- The integer that a binary number equals, if it equals one. -/
def toInt? : Binary64 → Option Int
  | .finite negative mantissa exponent =>
    let sign : Int := if negative then -1 else 1
    match exponent with
    | .ofNat e => some (sign * (mantissa <<< e : Nat))
    | .negSucc e =>
      if mantissa % (1 <<< (e + 1)) = 0 then some (sign * (mantissa >>> (e + 1) : Nat)) else none
  | _ => none

end Binary64

end MemberAddress
