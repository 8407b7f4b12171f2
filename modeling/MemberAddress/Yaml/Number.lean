import MemberAddress.Binary64
import MemberAddress.Text.Blank
import MemberAddress.Text.Digit
import MemberAddress.Yaml.Error

/-!
# Numbers of a document

* `Yaml.Number.integer?` and `Yaml.Number.decimal?` read a numeral with blanks around it and digits
  of any script;
* `Yaml.Number.whole` reads a whole number: binary after `0b`, hexadecimal after `0x`, octal after
  another zero, in base sixty with colons, and decimal otherwise;
* `Yaml.Number.real` reads a number with a fraction, an infinity, or what is no number.

Underscores may part the digits of a number and are dropped first.
-/

namespace MemberAddress.Yaml.Number

/-! ### Numerals -/

/-- Whether a character may stand around a numeral. -/
def isPadding (c : Char) : Bool :=
  if c.toNat < 0x80 then [' ', '\t', '\n', '\r', '\x0b', '\x0c'].contains c else Text.isBlank c

/-- A text without the padding at its ends. -/
def unpadded (t : Text) : Text :=
  ((t.dropWhile isPadding).reverse.dropWhile isPadding).reverse

/-- Whether a minus sign stands in front of a text, and the text without its sign. -/
def unsigned : Text → Bool × Text
  | '-' :: rest => (true, rest)
  | '+' :: rest => (false, rest)
  | t => (false, t)

/-- A text without underscores. -/
def dropUnderscores (t : Text) : Text := t.filter (· != '_')

/-- The value of a digit below a base: a decimal digit of any script, or a letter of ASCII. -/
def digitIn? (base : Nat) (c : Char) : Option Nat :=
  ((Text.digit? c).or (Text.hexDigit? c)).filter (· < base)

/-- Numerals in these bases may repeat the mark of their base. -/
def baseMarks : List (Nat × Char) := [(2, 'b'), (8, 'o'), (16, 'x')]

/-- The digits of a numeral after the mark of its base, if it has one. -/
def dropBaseMark (base : Nat) (t : Text) : Text :=
  match t with
  | '0' :: mark :: digits => if (base, mark.toLower) ∈ baseMarks then digits else t
  | _ => t

/-- The integer that a numeral in a base denotes. A decimal numeral may not be too long. -/
def integer? (base : Nat) (t : Text) : Option Int :=
  let (negative, t) := unsigned (unpadded t)
  let digits := dropBaseMark base t
  if base = 10 ∧ Text.numeralLimit < digits.length then none
  else
    (Text.numeral? base (digitIn? base) digits).map fun n => if negative then -(n : Int) else n

/-- The exponent of ten at the end of a numeral; without one it is zero. -/
def exponent? : Text → Option Int
  | [] => some 0
  | e :: rest =>
    if e == 'e' || e == 'E' then
      let (negative, digits) := unsigned rest
      (Text.numeral? 10 Text.digit? digits).map fun n => if negative then -(n : Int) else n
    else none

/-- The words for numbers that have no digits. -/
def wordOf? (negative : Bool) (t : Text) : Option Binary64 :=
  if t = "inf".toList ∨ t = "infinity".toList then some (.infinite negative)
  else if t = "nan".toList then some (.notANumber Binary64.noValueMark)
  else none

/-- The number of digits before and after a point, times a power of ten. -/
def scaled? (negative : Bool) (before after : Text) (exponent : Int) : Option Binary64 :=
  (Text.numeral? 10 Text.digit? (before ++ after)).map fun digits =>
    .ofDecimal negative digits (exponent - after.length)

/-- The number that a numeral with a point and an exponent, both optional, denotes. -/
def decimal? (t : Text) : Option Binary64 :=
  let (negative, t) := unsigned (unpadded t)
  (wordOf? negative (Text.lower t)).or <|
    let before := t.takeWhile Text.isDigit
    match t.dropWhile Text.isDigit with
    | '.' :: rest =>
      (exponent? (rest.dropWhile Text.isDigit)).bind
        (scaled? negative before (rest.takeWhile Text.isDigit))
    | rest => (exponent? rest).bind (scaled? negative before [])

/-! ### Numbers with a tag -/

/-- What was read, or the error that a text is no number. -/
def orNotANumber {α : Type} (given : Text) : Option α → Except Error α
  | some a => .ok a
  | none => .error (.notANumber given)

/-- A whole number without its sign and underscores. -/
def magnitude (t : Text) : Except Error Int :=
  match t with
  | [] => .error .nothingToRead
  | ['0'] => .ok 0
  | '0' :: 'b' :: digits => orNotANumber t (integer? 2 digits)
  | '0' :: 'x' :: digits => orNotANumber t (integer? 16 digits)
  | '0' :: _ => orNotANumber t (integer? 8 t)
  | _ =>
    orNotANumber t <|
      ((Text.fields ':' t).mapM (integer? 10)).map (·.foldl (fun n part => n * 60 + part) 0)

/-- The whole number that a text denotes. -/
def whole (t : Text) : Except Error Int :=
  let (negative, digits) := unsigned (dropUnderscores t)
  (magnitude digits).map fun n => if negative then -n else n

/-- The sum of parts in base sixty, the last part first: each is weighed by itself and added to the
sum so far. The weights must not be too large for a number with a fraction. -/
def sixtieths (sum : Binary64) (weight : Nat) : List Binary64 → Except Error Binary64
  | [] => .ok sum
  | part :: rest =>
    match Binary64.ofInt? weight with
    | none => .error .tooLarge
    | some w => sixtieths (sum.plus (part.times w)) (weight * 60) rest

/-- The mark of the word for no number; all its uses are one and the same. -/
def sharedMark : Nat := 0

/-- A number with a fraction, without its sign and underscores, in lower case; `mark` tells what is
no number apart from other such results. -/
def realMagnitude (mark : Nat) (t : Text) : Except Error Binary64 :=
  if t = ".inf".toList then .ok (.infinite false)
  else if t = ".nan".toList then .ok (.notANumber sharedMark)
  else if t.contains ':' then
    match orNotANumber t ((Text.fields ':' t).mapM decimal?) with
    | .error e => .error e
    | .ok parts =>
      (sixtieths (.ofRatio false 0 1) 1 parts.reverse).map (Binary64.withMark mark)
  else (orNotANumber t (decimal? t)).map (Binary64.withMark mark)

/-- The number with a fraction that a text denotes. -/
def real (mark : Nat) (t : Text) : Except Error Binary64 :=
  match Text.lower (dropUnderscores t) with
  | [] => .error .nothingToRead
  | t =>
    let (negative, magnitude) := unsigned t
    (realMagnitude mark magnitude).map fun x => if negative then x.negate else x

end MemberAddress.Yaml.Number
