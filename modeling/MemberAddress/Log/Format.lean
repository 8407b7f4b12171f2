import MemberAddress.Log.Record
import MemberAddress.Text.Notation
import MemberAddress.Text.Word

/-!
# Log formats

A handler writes a record in a format: a text in which conversions such as `%(message)s` or
`%(levelno)5d` stand for parts of the record. The first conversion may
go without a name and stands for the whole record; it uses it up, and so does a name.

* `Conversion` is one of them, `Conversion.write?` what it makes of a value,
  `Conversion.writeFrom?` what it makes of a record;
* `Format` is a text taken apart, `Format.read` accepts texts that have a named conversion at all;
* `Format.write?` writes a record on a line of its own, unless the format does not fit it.
-/

namespace MemberAddress

/-! ### Levels and names -/

/-- The name of the top component. -/
def topComponent : Text := "hazelcast_picker".toList

/-- The full name of a component; the empty name is the top component itself. -/
def loggerName (component : Text) : Text :=
  if component = [] then topComponent else topComponent ++ '.' :: component

/-- The name of a level as handlers write it. -/
def levelName (level : Whole) : Text :=
  if level.value = 50 then "CRITICAL".toList
  else if level.value = 40 then "ERROR".toList
  else if level.value = 30 then "WARNING".toList
  else if level.value = 20 then "INFO".toList
  else if level.value = 10 then "DEBUG".toList
  else if level.value = 0 then "NOTSET".toList
  else "Level ".toList ++ level.text

/-- The parts of a record that a format may name, for a record written at a time. Where and when the
record was made and by which process is not kept: these parts are empty texts and stand-in numbers. -/
def Record.parts (r : Record) (time : Text) : List (String × Value) :=
  let someReal : Value := .real (Binary64.ofRatio false 1 1)
  [("name", .text (loggerName r.component)), ("msg", r.content), ("args", .tuple []),
    ("levelname", .text (levelName r.level)), ("levelno", r.level.toValue), ("pathname", .text []),
    ("filename", .text []), ("module", .text []), ("exc_info", .null), ("exc_text", .null),
    ("stack_info", .null), ("lineno", .whole 1), ("funcName", .text []), ("created", someReal),
    ("msecs", someReal), ("relativeCreated", someReal), ("thread", .whole 0x800000000000),
    ("threadName", .text "MainThread".toList), ("processName", .text "MainProcess".toList),
    ("process", .whole 1), ("message", .text r.message), ("asctime", .text time)]

/-- A whole record as a table. -/
def Record.table (r : Record) (time : Text) : Value :=
  .table ((r.parts time).map fun (name, v) => (.text name.toList, v))

/-! ### Conversions -/

/-- A conversion: the part of the record that it names, if any, its flags, the least width, the
precision and the letter that says how to write. -/
structure Conversion where
  part : Option Text
  flags : List Char
  width : Nat
  precision : Option Nat
  letter : Char
  deriving DecidableEq, Repr

namespace Conversion

/-- Whether a conversion has a flag. -/
def has (c : Conversion) (flag : Char) : Bool := c.flags.contains flag

/-- The letters that write a text. -/
def textLetters : List Char := ['s', 'r', 'a']

/-- The letters that write a whole number. -/
def wholeLetters : List Char := ['d', 'i', 'u', 'o', 'x', 'X']

/-- The letters that write a number with a point or an exponent. -/
def realLetters : List Char := ['e', 'E', 'f', 'F', 'g', 'G']

/-- The letter for a single character. -/
def characterLetter : Char := 'c'

/-- Whether a conversion writes a number, with a sign. -/
def isNumeric (c : Conversion) : Bool := (wholeLetters ++ realLetters).contains c.letter

/-- The mark of a base, which stands before a number if the conversion asks for it. -/
def baseMark (c : Conversion) : Text :=
  if c.has '#' && ['o', 'x', 'X'].contains c.letter then ['0', c.letter] else []

/-- The text of a value: by itself, as a list shows it, or the same in ASCII alone. -/
def textOf (c : Conversion) (v : Value) : Text :=
  let t :=
    if c.letter = 's' then v.shown
    else if c.letter = 'r' then v.written
    else Text.asciiOnly v.written
  match c.precision with
  | some count => t.take count
  | none => t

/-- The digits of a whole number, at least as many as the precision says. -/
def digitsOf (c : Conversion) (n : Nat) : Text :=
  let digits :=
    if c.letter = 'o' then Nat.toDigits 8 n
    else if c.letter = 'x' then Text.hexadecimal n
    else if c.letter = 'X' then (Text.hexadecimal n).map Char.toUpper
    else Text.decimal n
  List.replicate (c.precision.getD 1 - digits.length) '0' ++ digits

/-- A whole number with a point or an exponent; six places if the conversion does not say. -/
def pointed (c : Conversion) (n : Nat) : Text :=
  let precision := c.precision.getD 6
  let full := c.has '#'
  let t :=
    if c.letter.toLower = 'f' then Text.fixed full precision n
    else if c.letter.toLower = 'e' then Text.exponential full precision n
    else Text.general full precision n
  if c.letter.isUpper then t.map Char.toUpper else t

/-- The character of a code or of a text of one character. -/
def characterOf? : Value → Option Char
  | .text [ch] => some ch
  | v =>
    match v.toInt? with
    | some (.ofNat n) => if n.isValidChar then some (Char.ofNat n) else none
    | _ => none

/-- The sign of a number. -/
def signOf (c : Conversion) (n : Int) : Text :=
  if n < 0 then ['-'] else if c.has '+' then ['+'] else if c.has ' ' then [' '] else []

/-- The sign and mark of a value, and its text; none if the value cannot be written so. -/
def body? (c : Conversion) (v : Value) : Option (Text × Text) :=
  if textLetters.contains c.letter then if v.isShowable then some ([], c.textOf v) else none
  else if c.letter = characterLetter then (characterOf? v).map fun ch => ([], [ch])
  else
    match v.toInt? with
    | none => none
    | some n =>
      if wholeLetters.contains c.letter then
        if v.isShowable || !c.baseMark.isEmpty || ['o', 'x', 'X'].contains c.letter then
          some (c.signOf n ++ c.baseMark, c.digitsOf n.natAbs)
        else none
      else if realLetters.contains c.letter then
        match (Binary64.ofInt? n.natAbs).bind Binary64.toInt? with
        | some size => some (c.signOf n, c.pointed size.natAbs)
        | none => none
      else none

/-- What a conversion makes of a value: spaces fill it up to the width, or zeros between the sign of
a number and its digits. -/
def write? (c : Conversion) (v : Value) : Option Text :=
  (c.body? v).map fun (head, body) =>
    let gap := c.width - (head.length + body.length)
    if c.has '-' then head ++ body ++ List.replicate gap ' '
    else if c.has '0' && c.isNumeric then head ++ List.replicate gap '0' ++ body
    else List.replicate gap ' ' ++ head ++ body

/-- What a conversion makes of what is at hand, given the parts of a record. A name puts its part at
hand. -/
def writeFrom? (c : Conversion) (parts : List (String × Value)) (atHand : Option Value) :
    Option Text :=
  match c.part with
  | none => atHand.bind c.write?
  | some part => (parts.lookup (String.ofList part)).bind c.write?

/-! ### Conversions read -/

/-- The flags. -/
def allFlags : List Char := ['#', '0', '-', ' ', '+']

/-- The name of a part up to its closing bracket, and the text after it. Brackets within the name
are paired; `depth` counts those that are open. -/
def partName (depth : Nat) : Text → Option (Text × Text)
  | [] => none
  | c :: rest =>
    if c = ')' ∧ depth = 0 then some ([], rest)
    else
      let depth := if c = '(' then depth + 1 else if c = ')' then depth - 1 else depth
      (partName depth rest).map fun (name, rest) => (c :: name, rest)

/-- A number at the start of a text, zero without digits, and the text after it. -/
def leadingNumber (t : Text) : Nat × Text :=
  ((Text.numeral? 10 Text.asciiDigit? (t.takeWhile Char.isDigit)).getD 0, t.dropWhile Char.isDigit)

/-- The precision at the start of a text, if there is one, and the text after it. -/
def leadingPrecision (t : Text) : Option Nat × Text :=
  match t with
  | '.' :: rest => (some (leadingNumber rest).1, (leadingNumber rest).2)
  | t => (none, t)

/-- The name at the start of a text, if there is one, and the text after it; none if its bracket is
not closed. -/
def leadingName (t : Text) : Option (Option Text × Text) :=
  match t with
  | '(' :: rest => (partName 0 rest).map fun (name, rest) => (some name, rest)
  | t => some (none, t)

/-- A text without a letter for the size of a number, which changes nothing. -/
def dropSize : Text → Text
  | 'h' :: rest => rest
  | 'l' :: rest => rest
  | 'L' :: rest => rest
  | t => t

/-- The greatest width, and the greatest number of places; nothing longer is written. -/
def widthLimit : Nat := 1 <<< 28

/-- The greatest precision for a letter. That of a text only cuts it. -/
def precisionLimit (letter : Char) : Nat :=
  if (wholeLetters ++ realLetters).contains letter then widthLimit else 0x7fffffff

/-- All letters. -/
def allLetters : List Char := characterLetter :: textLetters ++ wholeLetters ++ realLetters

/-- The conversion after a percent sign, and the text after it. It has a known letter; a star for a
width or precision leaves nothing for the letter and is not read. -/
def read? (t : Text) : Option (Conversion × Text) :=
  match leadingName t with
  | none => none
  | some (part, t) =>
    let flags := t.takeWhile allFlags.contains
    let (width, t) := leadingNumber (t.dropWhile allFlags.contains)
    let (precision, t) := leadingPrecision t
    match dropSize t with
    | [] => none
    | letter :: rest =>
      if allLetters.contains letter && width ≤ widthLimit &&
          precision.all (· ≤ precisionLimit letter) then
        some (⟨part, flags, width, precision, letter⟩, rest)
      else none

end Conversion

/-! ### Formats -/

/-- A piece of a format: a character, or a conversion. -/
inductive FormatPiece
  | literal (c : Char)
  | conversion (c : Conversion)
  deriving DecidableEq, Repr

/-- The form in which a record is written. There are no pieces if no record fits the form. -/
structure Format where
  pieces : Option (List FormatPiece)
  deriving DecidableEq, Repr

namespace Format

/-- The pieces of a text. A percent sign starts a conversion, or stands for itself if another one
follows; every round takes at least one character. -/
def piecesOf : Nat → Text → Option (List FormatPiece)
  | _, [] => some []
  | 0, _ => none
  | fuel + 1, '%' :: '%' :: rest => (piecesOf fuel rest).map (.literal '%' :: ·)
  | fuel + 1, '%' :: rest =>
    match Conversion.read? rest with
    | some (c, rest) => (piecesOf fuel rest).map (.conversion c :: ·)
    | none => none
  | fuel + 1, c :: rest => (piecesOf fuel rest).map (.literal c :: ·)

/-- The format that a text denotes. -/
def ofText (t : Text) : Format := ⟨piecesOf t.length t⟩

/-- The letters that end a conversion in a text that is taken for a format, in either case; dotless
and dotted `i` and the long `s` count as those letters. -/
def formatLetters : List Char := "diouxefgcrsaDIOUXEFGCRSA%\u0130\u0131\u017f".toList

/-- A text without a star or a number of any script at its start. -/
def dropStarOrNumber : Text → Text
  | '*' :: rest => rest
  | t => t.dropWhile Text.isDigit

/-- Whether a text, after a percent sign, looks like a conversion of a named part. -/
def startsConversion : Text → Bool
  | '(' :: t =>
    !(t.takeWhile Text.isWordChar).isEmpty &&
      (match t.dropWhile Text.isWordChar with
      | ')' :: t =>
        let t := dropStarOrNumber (t.dropWhile Conversion.allFlags.contains)
        let t :=
          match t with
          | '.' :: rest =>
            if rest.head?.any fun c => c == '*' || Text.isDigit c then dropStarOrNumber rest else t
          | t => t
        t.head?.any formatLetters.contains
      | _ => false)
  | _ => false

/-- Whether a text has anything that looks like a conversion of a named part. -/
def hasConversion : Text → Bool
  | [] => false
  | c :: rest => (c == '%' && startsConversion rest) || hasConversion rest

/-- The format of handlers for which the empty one is given. -/
def plainText : Text := "%(message)s".toList

/-- The format of handlers for which no other is given. -/
def defaultText : Text := "%(asctime)s - %(name)s - %(levelname)s - %(message)s".toList

/-- The format in a value: a text, which must look like one. Any empty value gives the plain format. -/
def read (v : Value) : Except Fault Format :=
  if v.isTrue then
    match v with
    | .text t => if hasConversion t then .ok (ofText t) else .error (.badFormat t)
    | v => .error (.notEntryText v.kind)
  else .ok (ofText plainText)

/-- What pieces make of the parts of a record, with what is at hand. Every conversion uses it up. -/
def writePieces? (parts : List (String × Value)) :
    Option Value → List FormatPiece → Option Text
  | _, [] => some []
  | atHand, .literal c :: rest => (writePieces? parts atHand rest).map (c :: ·)
  | atHand, .conversion c :: rest =>
    match c.writeFrom? parts atHand with
    | none => none
    | some t => (writePieces? parts none rest).map (t ++ ·)

/-- A record in a format, on a line of its own, with the text of a time. The whole record is at hand
first. -/
def write? (format : Format) (time : Text) (r : Record) : Option Text :=
  match format.pieces with
  | none => none
  | some pieces => (writePieces? (r.parts time) (some (r.table time)) pieces).map (· ++ ['\n'])

end Format

end MemberAddress
