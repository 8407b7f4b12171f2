import MemberAddress.Yaml.Number
import MemberAddress.Yaml.Time

/-!
# Tags

The tag of a node says what its content denotes. A node may name its tag; a scalar that does not has
one by its look.

* `Yaml.Tag` are the tags that matter;
* `Yaml.Tag.ofName` is the tag of a full name, `Yaml.Tag.ofText` the tag of a plain scalar.
-/

namespace MemberAddress.Yaml

/-- What the content of a node denotes. The keys `<<` and `=` have tags of their own: entries under
the former are merged, and the entry under the latter stands for a mapping where a scalar is
needed. -/
inductive Tag
  | null
  | flag
  | whole
  | real
  | text
  | bytes
  | time
  | list
  | pairs
  | set
  | table
  | merge
  | value
  | unknown
  deriving DecidableEq, Repr

namespace Tag

/-- The start of the names of all known tags. -/
def namespaceName : Text := "tag:yaml.org,2002:".toList

/-- The names of the known tags after their common start. An ordered mapping is a list of pairs. -/
def names : List (Text × Tag) :=
  [("null".toList, .null), ("bool".toList, .flag), ("int".toList, .whole),
    ("float".toList, .real), ("str".toList, .text), ("binary".toList, .bytes),
    ("timestamp".toList, .time), ("seq".toList, .list), ("omap".toList, .pairs),
    ("pairs".toList, .pairs), ("set".toList, .set), ("map".toList, .table),
    ("merge".toList, .merge), ("value".toList, .value)]

/-- The tag with a full name. -/
def ofName (name : Text) : Tag :=
  if namespaceName.isPrefixOf name then
    (names.lookup (name.drop namespaceName.length)).getD .unknown
  else .unknown

/-! ### The look of a scalar -/

/-- The words for nothing. -/
def nullWords : List Text := ["~".toList, "null".toList, "Null".toList, "NULL".toList]

/-- The words for a flag. -/
def flagWords : List Text :=
  ["yes".toList, "Yes".toList, "YES".toList, "no".toList, "No".toList, "NO".toList,
    "true".toList, "True".toList, "TRUE".toList, "false".toList, "False".toList, "FALSE".toList,
    "on".toList, "On".toList, "ON".toList, "off".toList, "Off".toList, "OFF".toList]

/-- The words for infinity, after a sign. -/
def infinityWords : List Text := [".inf".toList, ".Inf".toList, ".INF".toList]

/-- The words for no number. -/
def notANumberWords : List Text := [".nan".toList, ".NaN".toList, ".NAN".toList]

/-- The words that stand for nothing that a document can hold. -/
def reservedWords : List Text := ["!".toList, "&".toList, "*".toList]

/-- Whether a text starts with a digit and goes on with digits and underscores. -/
def isNumeral (t : Text) : Bool :=
  t.head?.any Char.isDigit && t.all fun c => c.isDigit || c == '_'

/-- Whether a text is not empty and made of digits below a base and underscores. -/
def isNumeralIn (base : Nat) (t : Text) : Bool :=
  !t.isEmpty && t.all fun c => c == '_' || ((Text.hexDigit? c).filter (· < base)).isSome

/-- Whether a text is a part of a number in base sixty after the first: 0 to 59, in one digit or
two. -/
def isSixtieth : Text → Bool
  | [a] => a.isDigit
  | [a, b] => '0' ≤ a && a ≤ '5' && b.isDigit
  | _ => false

/-- Whether a text is an exponent with a sign, or empty. -/
def isExponent : Text → Bool
  | [] => true
  | e :: sign :: digits =>
    (e == 'e' || e == 'E') && (sign == '+' || sign == '-') && !digits.isEmpty &&
      digits.all Char.isDigit
  | _ => false

/-- Whether a text looks like a whole number: binary, hexadecimal, octal, decimal, or in base sixty
with colons. -/
def looksWhole (t : Text) : Bool :=
  match (Number.unsigned t).2 with
  | ['0'] => true
  | '0' :: 'b' :: digits => isNumeralIn 2 digits
  | '0' :: 'x' :: digits => isNumeralIn 16 digits
  | '0' :: digits => isNumeralIn 8 digits
  | t =>
    match Text.fields ':' t with
    | first :: rest => isNumeral first && rest.all isSixtieth
    | [] => false

/-- Whether a text looks like a number with a fraction: digits before a point, also in base sixty
with colons, or, without a sign, after it; or a word for infinity or for no number. -/
def looksReal (t : Text) : Bool :=
  let body := (Number.unsigned t).2
  infinityWords.contains body || notANumberWords.contains t ||
    match Text.cut '.' body with
    | (_, none) => false
    | (before, some rest) =>
      let isDigitOrMark (c : Char) : Bool := c.isDigit || c == '_'
      let ending := rest.dropWhile isDigitOrMark
      if before.isEmpty then t == body && rest.head?.any Char.isDigit && isExponent ending
      else
        match Text.fields ':' before with
        | [digits] => isNumeral digits && isExponent ending
        | first :: parts => isNumeral first && parts.all isSixtieth && ending.isEmpty
        | [] => false

/-- The tag of a text by its look. -/
def ofLook (t : Text) : Tag :=
  if flagWords.contains t then .flag
  else if looksReal t then .real
  else if looksWhole t then .whole
  else if t = "<<".toList then .merge
  else if nullWords.contains t then .null
  else if Time.isPlain t then .time
  else if t = "=".toList then .value
  else if reservedWords.contains t then .unknown
  else .text

/-- A text without one line feed at its end. -/
def withoutLineFeed (t : Text) : Text := if t.getLast? = some '\n' then t.dropLast else t

/-- The tag of a plain scalar by its look, a line feed at its end aside. -/
def ofText (t : Text) : Tag :=
  if t = [] then .null
  else if t.head? = some '\n' then .text
  else ofLook (withoutLineFeed t)

end Tag

end MemberAddress.Yaml
