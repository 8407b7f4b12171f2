import MemberAddress.Binary64
import MemberAddress.Bytes
import MemberAddress.Calendar
import MemberAddress.Text.Blank
import MemberAddress.Text.Digit
import MemberAddress.Text.Quoted

/-!
# Configuration values

What a configuration file or a caller may put in the place of a setting: nothing, a flag, a
number, a text, a date, bytes, a list or a table. Only here does the library meet values of unknown
kind; each setting says what it makes of them.

* `Value` and its kinds;
* `Value.shown` is the text of a value by itself, `Value.written` its text inside a list or table;
* `Value.isShowable` tells values that have a text from those with a number too long to write;
* `Value.isTrue` tells full values from empty ones, `Value.flag` reads a textual flag;
* `Value.items` are the members of a value where a list is asked for;
* `Entries.get?` and `Entries.put` look up and set an entry of a table.
-/

namespace MemberAddress

/-- A value of a configuration. A container that holds itself is a knot: the mark names it, and what
it holds is laid out as far as anyone looks, the container itself appearing in it again and again
under the same mark. -/
inductive Value
  | null
  | flag (b : Bool)
  | whole (n : Int)
  | real (x : Binary64)
  | text (t : Text)
  | date (d : Date)
  | moment (m : Moment)
  | bytes (bs : Bytes)
  | list (items : List Value)
  | tuple (items : List Value)
  | set (members : List Value)
  | table (entries : List (Value × Value))
  | knot (mark : Nat) (content : Value)
  deriving Repr

/-- The entries of a table in their order. -/
abbrev Entries := List (Value × Value)

namespace Value

instance : Inhabited Value := ⟨.null⟩

/-- A value itself, where a knot is meant as what it holds. -/
def content : Value → Value
  | .knot _ v => content v
  | v => v

/-- The name of a value's kind, as messages give it. -/
def kind : Value → Text
  | .null => "NoneType".toList
  | .flag _ => "bool".toList
  | .whole _ => "int".toList
  | .real _ => "float".toList
  | .text _ => "str".toList
  | .date _ => "date".toList
  | .moment _ => "datetime".toList
  | .bytes _ => "bytes".toList
  | .list _ => "list".toList
  | .tuple _ => "tuple".toList
  | .set _ => "set".toList
  | .table _ => "dict".toList
  | .knot _ v => kind v

/-! ### The text of a value -/

/-- The text of a flag. -/
def flagText (b : Bool) : Text := if b then "True".toList else "False".toList

/-- Texts between an opening and a closing sign. -/
def enclosed (opening : Char) (texts : List Text) (closing : Char) : Text :=
  opening :: List.intercalate ", ".toList texts ++ [closing]

/-- What stands for a container inside itself. -/
def abridged : Value → Text
  | .table _ => "\x7b...\x7d".toList
  | .tuple _ => "(...)".toList
  | _ => "[...]".toList

mutual
/-- The text of a value inside the containers with the given marks: a text is quoted, and one of
those containers is only hinted at. -/
def writtenIn (outer : List Nat) : Value → Text
  | .null => "None".toList
  | .flag b => flagText b
  | .whole n => Text.integer n
  | .real x => x.text
  | .text t => Text.quoted t
  | .date d => d.shown
  | .moment m => m.shown
  | .bytes bs => bs.shown
  | .list items => enclosed '[' (writtenItems outer items) ']'
  | .tuple items =>
    match writtenItems outer items with
    | [t] => '(' :: t ++ ",)".toList
    | ts => enclosed '(' ts ')'
  | .set members =>
    if members.isEmpty then "set()".toList
    else enclosed '\x7b' (writtenItems outer members) '\x7d'
  | .table entries => enclosed '\x7b' (writtenEntries outer entries) '\x7d'
  | .knot mark v => if mark ∈ outer then abridged v.content else writtenIn (mark :: outer) v

/-- The texts of the items of a list. -/
def writtenItems (outer : List Nat) : List Value → List Text
  | [] => []
  | v :: rest => writtenIn outer v :: writtenItems outer rest

/-- The texts of the entries of a table. -/
def writtenEntries (outer : List Nat) : List (Value × Value) → List Text
  | [] => []
  | (k, v) :: rest =>
    (writtenIn outer k ++ ": ".toList ++ writtenIn outer v) :: writtenEntries outer rest
end

/-- The text of a value as a list or table shows it. -/
def written (v : Value) : Text := writtenIn [] v

/-- The text of a value by itself: texts, dates and times are shown plainly. -/
def shown : Value → Text
  | .text t => t
  | .date d => d.text
  | .moment m => m.text
  | v => written v

/-! ### Numbers too long to write -/

mutual
/-- Whether a value inside the containers with the given marks has a text: an integer is written
only up to a number of digits. -/
def isShowableIn (outer : List Nat) : Value → Bool
  | .whole n => decide (n.natAbs < 10 ^ Text.numeralLimit)
  | .list items => areShowable outer items
  | .tuple items => areShowable outer items
  | .set members => areShowable outer members
  | .table entries => areShowableEntries outer entries
  | .knot mark v => outer.contains mark || isShowableIn (mark :: outer) v
  | _ => true

/-- Whether all items of a list have texts. -/
def areShowable (outer : List Nat) : List Value → Bool
  | [] => true
  | v :: rest => isShowableIn outer v && areShowable outer rest

/-- Whether all entries of a table have texts. -/
def areShowableEntries (outer : List Nat) : List (Value × Value) → Bool
  | [] => true
  | (k, v) :: rest =>
    isShowableIn outer k && isShowableIn outer v && areShowableEntries outer rest
end

/-- Whether a value has a text. -/
def isShowable (v : Value) : Bool := isShowableIn [] v

/-! ### Full and empty values -/

/-- Whether a value is full: neither absent, false, zero nor empty. -/
def isTrue : Value → Bool
  | .null => false
  | .flag b => b
  | .whole n => n != 0
  | .real x => !x.isZero
  | .text t => !t.isEmpty
  | .date _ => true
  | .moment _ => true
  | .bytes bs => !bs.isEmpty
  | .list items => !items.isEmpty
  | .tuple items => !items.isEmpty
  | .set members => !members.isEmpty
  | .table entries => !entries.isEmpty
  | .knot _ v => isTrue v

/-! ### Flags -/

/-- The words that turn a flag on, in any case. -/
def trueWords : List Text := ["true".toList, "1".toList, "yes".toList, "on".toList]

/-- Whether a text, without the blanks around it, is one of the words that turn a flag on. -/
def isTrueWord (t : Text) : Bool := trueWords.contains (Text.lower (Text.trim t))

/-- The flag that a value gives, or nothing when the value is absent or blank. -/
def flag? : Value → Option Bool
  | .null => none
  | .flag b => some b
  | v => if (Text.trim v.shown).isEmpty then none else some (isTrueWord v.shown)

/-- The flag that a value gives; the default when it gives none. -/
def asFlag (v : Value) (default : Bool) : Bool := v.flag?.getD default

/-- The flag that an optional text gives; the default when it is absent or blank. -/
def textFlag (t : Option Text) (default : Bool) : Bool :=
  match t with
  | none => default
  | some t => asFlag (.text t) default

/-! ### Whole numbers and lists -/

/-- The integer in a value; a flag counts as zero or one. -/
def toInt? : Value → Option Int
  | .whole n => some n
  | .flag b => some (if b then 1 else 0)
  | _ => none

/-- The members of a value where a list is asked for: the items of a list, the characters of a
text, the keys of a table, and none for any empty value. Other values have no members. -/
def items? : Value → Option (List Value)
  | .list items => some items
  | .tuple items => some items
  | .set members => some members
  | .text t => some (t.map fun c => .text [c])
  | .bytes bs => some (bs.map fun b => .whole b.toNat)
  | .table entries => some (entries.map Prod.fst)
  | .knot _ v => items? v
  | v => if v.isTrue then none else some []

/-! ### Keys -/

/-- Whether two values are the same key of a table. Numbers are the same key when they are equal,
whatever their kind, and a flag is the number zero or one. What is no number is the same key as
itself alone. -/
def sameKey : Value → Value → Bool
  | .null, .null => true
  | .text a, .text b => a == b
  | .date a, .date b => a == b
  | .moment a, .moment b => a.same b
  | .bytes a, .bytes b => a == b
  | a, b =>
    match toInt? a, toInt? b, a, b with
    | some m, some n, _, _ => m == n
    | some m, none, _, .real y => y.toInt? == some m
    | none, some n, .real x, _ => x.toInt? == some n
    | none, none, .real x, .real y => x == y || (x.isZero && y.isZero)
    | _, _, _, _ => false

/-- Whether a value may be the key of a table; containers may not. -/
def isKey : Value → Bool
  | .list _ | .tuple _ | .set _ | .table _ | .knot _ _ => false
  | _ => true

end Value

namespace Entries

/-- The value of a key, if the table has the key. -/
def find? (key : Value) : Entries → Option Value
  | [] => none
  | (k, v) :: rest => if k.sameKey key then some v else find? key rest

/-- The value of a textual key; absent keys and null values alike give null. -/
def get (entries : Entries) (key : String) : Value :=
  (find? (.text key.toList) entries).getD .null

/-- The table with a key set. A key that was there keeps its place and its spelling. -/
def put (key value : Value) : Entries → Entries
  | [] => [(key, value)]
  | (k, v) :: rest => if k.sameKey key then (k, value) :: rest else (k, v) :: put key value rest

/-- Setting a key and then asking for it gives what was set, for every key equal to itself. -/
theorem find?_put_self {key : Value} (h : key.sameKey key = true) (value : Value) (es : Entries) :
    find? key (put key value es) = some value := by
  induction es with
  | nil => simp [put, find?, h]
  | cons e rest ih =>
    by_cases hk : e.1.sameKey key
    · simp [put, find?, hk]
    · simp [put, find?, hk, ih]

end Entries

end MemberAddress
