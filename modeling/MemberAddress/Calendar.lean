import MemberAddress.Text.Basic

/-!
# Dates and times

* `Date` is a day of the Gregorian calendar, `Moment` a time of a day, with or without an offset
  from universal time;
* `Date.isValid` and `Moment.isValid` tell real dates and times from others;
* `Moment.instant` places moments with an offset on one line;
* `Date.text` and `Moment.text` write them, `Date.shown` and `Moment.shown` are their forms inside
  lists and tables.
-/

namespace MemberAddress

/-! ### Days -/

/-- A day of the calendar. -/
structure Date where
  year : Nat
  month : Nat
  day : Nat
  deriving DecidableEq, Repr

namespace Date

/-- Whether a year has a leap day: every fourth year, but of the full centuries only every
fourth. -/
def isLeapYear (year : Nat) : Bool := year % 4 == 0 && (year % 100 != 0 || year % 400 == 0)

/-- The number of days in a month. -/
def daysIn (year month : Nat) : Nat :=
  if month = 2 then if isLeapYear year then 29 else 28
  else if month ∈ [4, 6, 9, 11] then 30
  else 31

/-- Whether a day exists; years have at most four digits and start at one. -/
def isValid (d : Date) : Bool :=
  1 ≤ d.year && d.year ≤ 9999 && 1 ≤ d.month && d.month ≤ 12 && 1 ≤ d.day &&
    d.day ≤ daysIn d.year d.month

/-- The number of days before a day, from the start of the first year. -/
def dayNumber (d : Date) : Nat :=
  let years := d.year - 1
  let months := (List.range (d.month - 1)).foldl (fun days m => days + daysIn d.year (m + 1)) 0
  365 * years + years / 4 - years / 100 + years / 400 + months + (d.day - 1)

/-- A date in digits. -/
def text (d : Date) : Text :=
  Text.padded 4 d.year ++ '-' :: Text.padded 2 d.month ++ '-' :: Text.padded 2 d.day

/-- A date as a list shows it. -/
def shown (d : Date) : Text :=
  "datetime.date(".toList ++
    List.intercalate ", ".toList ([d.year, d.month, d.day].map Text.decimal) ++ [')']

end Date

/-! ### Times -/

/-- A time of a day. The offset is in minutes east of universal time. -/
structure Moment where
  date : Date
  hour : Nat
  minute : Nat
  second : Nat
  microsecond : Nat
  offset : Option Int
  deriving DecidableEq, Repr

namespace Moment

/-- The number of minutes in a day. -/
def minutesInDay : Nat := 1440

/-- Whether a time exists; an offset is less than a day. -/
def isValid (m : Moment) : Bool :=
  m.date.isValid && m.hour < 24 && m.minute < 60 && m.second < 60 && m.microsecond < 1000000 &&
    m.offset.all fun offset => offset.natAbs < minutesInDay

/-- The microsecond of universal time at a moment whose offset is given. -/
def instant (m : Moment) (offset : Int) : Int :=
  let minutes : Int := (m.date.dayNumber * minutesInDay + m.hour * 60 + m.minute : Nat) - offset
  (minutes * 60 + m.second) * 1000000 + m.microsecond

/-- Whether two moments are the same time. One with an offset is never the same as one without. -/
def same (m n : Moment) : Bool :=
  match m.offset, n.offset with
  | none, none => m == n
  | some a, some b => m.instant a == n.instant b
  | _, _ => false

/-- An offset in digits. -/
def offsetText (offset : Int) : Text :=
  (if offset < 0 then '-' else '+') :: Text.padded 2 (offset.natAbs / 60) ++
    ':' :: Text.padded 2 (offset.natAbs % 60)

/-- A moment in digits; a fraction of a second has six of them. -/
def text (m : Moment) : Text :=
  m.date.text ++ ' ' :: Text.padded 2 m.hour ++ ':' :: Text.padded 2 m.minute ++
    ':' :: Text.padded 2 m.second ++
    (if m.microsecond = 0 then [] else '.' :: Text.padded 6 m.microsecond) ++
    (m.offset.map offsetText).getD []

/-- An offset as a list shows it: whole days, counted downwards, and seconds. -/
def shownOffset (offset : Int) : Text :=
  if offset = 0 then "datetime.timezone.utc".toList
  else
    let seconds := (offset * 60) % 86400
    "datetime.timezone(datetime.timedelta(".toList ++
      (if offset < 0 then "days=-1, ".toList else []) ++ "seconds=".toList ++
      Text.integer seconds ++ "))".toList

/-- A moment as a list shows it, without seconds and fractions that are zero. -/
def shown (m : Moment) : Text :=
  let fractions :=
    if m.microsecond ≠ 0 then [m.second, m.microsecond]
    else if m.second ≠ 0 then [m.second]
    else []
  let numbers := [m.date.year, m.date.month, m.date.day, m.hour, m.minute] ++ fractions
  "datetime.datetime(".toList ++ List.intercalate ", ".toList (numbers.map Text.decimal) ++
    (m.offset.map fun offset => ", tzinfo=".toList ++ shownOffset offset).getD [] ++ [')']

end Moment

end MemberAddress
