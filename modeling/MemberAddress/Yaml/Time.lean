import MemberAddress.Calendar
import MemberAddress.Text.Digit

/-!
# Dates and times of a document

A date is written `2001-12-14`, a time `2001-12-14 21:59:43.1 -05:00`, where `T` may stand for the
space and `Z` for no offset.

* `Yaml.Time.read?` reads a text of this form, whether or not there is such a day or time;
* `Yaml.Time.isPlain` tells the texts that are dates or times without a tag: a date by itself has
  two digits for month and day.
-/

namespace MemberAddress.Yaml.Time

/-- A date or a time. -/
inductive Stamp
  | date (d : Date)
  | moment (m : Moment)
  deriving DecidableEq, Repr

/-- Whether there is such a date or time. -/
def Stamp.isValid : Stamp → Bool
  | .date d => d.isValid
  | .moment m => m.isValid

/-- A number of at least `least` and at most `most` digits at the start of a text, and the text
after it. -/
def digits? (least most : Nat) (t : Text) : Option (Nat × Text) :=
  let run := (t.takeWhile Char.isDigit).take most
  if run.length < least then none
  else (Text.numeral? 10 Text.asciiDigit? run).map fun n => (n, t.drop run.length)

/-- A sign, a number of digits after it, and the text after that. -/
def after? (sign : Char) (least most : Nat) (t : Text) : Option (Nat × Text) :=
  match t with
  | c :: rest => if c = sign then digits? least most rest else none
  | [] => none

/-- Whether a character is a space or a tab. -/
def isSpace (c : Char) : Bool := c == ' ' || c == '\t'

/-- The day at the start of a text, and the text after it. -/
def day? (t : Text) : Option (Date × Text) :=
  match digits? 4 4 t with
  | none => none
  | some (year, t) =>
    match after? '-' 1 2 t with
    | none => none
    | some (month, t) => (after? '-' 1 2 t).map fun (day, t) => (⟨year, month, day⟩, t)

/-- The text after what parts the day from the time. -/
def separated? : Text → Option Text
  | 'T' :: rest => some rest
  | 't' :: rest => some rest
  | c :: rest => if isSpace c then some (rest.dropWhile isSpace) else none
  | [] => none

/-- The millionths of a second in the digits after a point; further digits are dropped. -/
def millionths (digits : Text) : Nat :=
  let kept := digits.take 6
  (Text.numeral? 10 Text.asciiDigit? (kept ++ List.replicate (6 - kept.length) '0')).getD 0

/-- The fraction of a second at the start of a text, and the text after it. -/
def fraction : Text → Nat × Text
  | '.' :: rest => (millionths (rest.takeWhile Char.isDigit), rest.dropWhile Char.isDigit)
  | t => (0, t)

/-- The offset, in minutes, that is all of a text after its sign: hours, and minutes after a
colon. -/
def offset? (t : Text) : Option Nat :=
  match digits? 1 2 t with
  | some (hours, []) => some (hours * 60)
  | some (hours, t) =>
    match after? ':' 2 2 t with
    | some (minutes, []) => some (hours * 60 + minutes)
    | _ => none
  | none => none

/-- The offset at the end of a time; the outer option tells whether the text is one. -/
def zone? (t : Text) : Option (Option Int) :=
  if t.isEmpty then some none
  else
    match t.dropWhile isSpace with
    | ['Z'] => some (some 0)
    | '+' :: rest => (offset? rest).map fun n => some n
    | '-' :: rest => (offset? rest).map fun n => some (-(n : Int))
    | _ => none

/-- The time of a day in a text. -/
def clock? (d : Date) (t : Text) : Option Moment :=
  match digits? 1 2 t with
  | none => none
  | some (hour, t) =>
    match after? ':' 2 2 t with
    | none => none
    | some (minute, t) =>
      match after? ':' 2 2 t with
      | none => none
      | some (second, t) =>
        (zone? (fraction t).2).map fun offset => ⟨d, hour, minute, second, (fraction t).1, offset⟩

/-- The date or time in a text. -/
def read? (t : Text) : Option Stamp :=
  match day? t with
  | none => none
  | some (d, []) => some (.date d)
  | some (d, t) => ((separated? t).bind (clock? d)).map .moment

/-- The length of a date with two digits for month and day. -/
def dateLength : Nat := 10

/-- Whether a text without a tag is a date or a time. -/
def isPlain (t : Text) : Bool :=
  match read? t with
  | some (.date _) => t.length == dateLength
  | some (.moment _) => true
  | none => false

end MemberAddress.Yaml.Time
