import MemberAddress.Text.Digit
import MemberAddress.Yaml.Cursor
import MemberAddress.Yaml.Error

/-!
# Scalars

A scalar is a text in one of four forms: plain, between single quotes, between double quotes with
escapes, or a block of indented lines.

* `Yaml.Scalar.plain`, `Yaml.Scalar.quoted` and `Yaml.Scalar.block` read a scalar at a place.

Lines of a scalar are folded: a single line break is a space, and further breaks stay. The loops
run on a count that the length of the text bounds, since each round moves the place.
-/

namespace MemberAddress.Yaml.Scalar

/-- Folded line breaks: a first break that is a line feed is a space, unless more breaks follow. -/
def fold (first : Text) (more : List Text) : Text :=
  if first ≠ ['\n'] then first ++ more.flatten
  else if more.isEmpty then [' '] else more.flatten

/-! ### Plain scalars -/

/-- The characters that end a plain scalar inside brackets. -/
def isFlowStop (c : Char) : Bool := [',', '?', '[', ']', '\x7b', '\x7d'].contains c

/-- The characters that end a plain scalar after a colon inside brackets. -/
def isFlowIndicator (c : Char) : Bool := [',', '[', ']', '\x7b', '\x7d'].contains c

/-- A run of characters of a plain scalar. A colon ends it when a blank follows, or inside brackets
a bracket or comma. -/
def plainRun (inFlow : Bool) : Text → Text
  | [] => []
  | ch :: rest =>
    let next := rest.headD '\x00'
    if isWordEnd ch || (ch == ':' && (isWordEnd next || (inFlow && isFlowIndicator next))) ||
        (inFlow && isFlowStop ch) then []
    else ch :: plainRun inFlow rest

/-- Further line breaks inside a plain scalar and the spaces between them; nothing if the document
ends there. -/
def plainBreaks : Nat → Cursor → List Text × Option Cursor
  | 0, c => ([], some c)
  | fuel + 1, c =>
    if c.peek == ' ' then plainBreaks fuel c.step
    else if isBreak c.peek then
      let (text, c) := c.lineBreak
      if c.atDocumentMark then ([], none)
      else
        let (more, c) := plainBreaks fuel c
        (text :: more, c)
    else ([], some c)

/-- The space between two runs of a plain scalar, the place after it, and whether a line was ended.
No space means that the scalar ends. -/
def plainSpaces (c : Cursor) : Text × Cursor × Bool :=
  let blanks := c.run (· == ' ')
  let c := c.skip (· == ' ')
  if isBreak c.peek then
    let (text, c) := c.lineBreak
    if c.atDocumentMark then ([], c, true)
    else
      match plainBreaks (c.rest.length + 1) c with
      | (breaks, some c) => (fold text breaks, c, true)
      | (_, none) => ([], c, true)
  else (blanks, c, false)

/-- A plain scalar: its text, the place after it, and whether it ended a line. `indent` is the
least column of its further lines outside brackets. -/
def plainFrom (inFlow : Bool) (indent : Int) : Nat → Text → Bool → Cursor → Text × Cursor × Bool
  | 0, _, ended, c => ([], c, ended)
  | fuel + 1, spaces, ended, c =>
    let run := plainRun inFlow c.rest
    if c.peek == '#' || run.isEmpty then ([], c, ended)
    else
      let (spaces', c', ended') := plainSpaces (c.advance run.length)
      if spaces'.isEmpty || c'.peek == '#' || (!inFlow && c'.column < indent) then
        (spaces ++ run, c', ended || ended')
      else
        let (more, c'', ended'') := plainFrom inFlow indent fuel spaces' (ended || ended') c'
        (spaces ++ run ++ more, c'', ended'')

/-- A plain scalar at a place. -/
def plain (inFlow : Bool) (indent : Int) (c : Cursor) : Text × Cursor × Bool :=
  plainFrom inFlow indent (c.rest.length + 1) [] false c

/-! ### Quoted scalars -/

/-- What a character after a backslash stands for. -/
def escapes : List (Char × Char) :=
  [('0', '\x00'), ('a', '\x07'), ('b', '\x08'), ('t', '\t'), ('\t', '\t'), ('n', '\n'),
    ('v', '\x0b'), ('f', '\x0c'), ('r', '\r'), ('e', '\x1b'), (' ', ' '), ('"', '"'),
    ('\\', '\\'), ('/', '/'), ('N', '\x85'), ('_', '\xa0'), ('L', '\u2028'), ('P', '\u2029')]

/-- The number of hexadecimal digits after a letter that introduces a code point. -/
def escapeDigits : List (Char × Nat) := [('x', 2), ('u', 4), ('U', 8)]

/-- The greatest code that a character may have, and the greatest that can be asked for. -/
def codeLimits : Nat × Nat := (0x10ffff, 0x7fffffff)

/-- The character of a code, or the one that stands for half of a pair. -/
def charOf (n : Nat) : Except Error Char :=
  if codeLimits.2 < n then .error (.unreachableCharacter n)
  else if codeLimits.1 < n then .error (.noSuchCharacter n)
  else .ok ((Text.ofSurrogate? n).getD (Char.ofNat n))

/-- The line breaks inside a quoted scalar with the blanks around them; fails where a document
ends. -/
def quotedBreaks : Nat → Cursor → Option (List Text × Cursor)
  | 0, _ => none
  | fuel + 1, c =>
    if c.atDocumentMark then none
    else
      let c := c.skip fun ch => ch == ' ' || ch == '\t'
      if isBreak c.peek then
        let (text, c) := c.lineBreak
        (quotedBreaks fuel c).map fun (more, c) => (text :: more, c)
      else some ([], c)

/-- The character whose code follows in `count` hexadecimal digits. -/
def codedCharacter (count : Nat) (c : Cursor) : Except Error (Text × Cursor) :=
  let digits := c.rest.take count
  if digits.length < count then .error .malformed
  else
    match Text.numeral? 16 Text.hexDigit? digits with
    | some code => (charOf code).map fun ch => ([ch], c.advance count)
    | none => .error .malformed

/-- An escape after its backslash. -/
def escape (c : Cursor) : Except Error (Text × Cursor) :=
  match escapes.lookup c.peek, escapeDigits.lookup c.peek with
  | some ch, _ => .ok ([ch], c.step)
  | none, some count => codedCharacter count c.step
  | none, none =>
    if isBreak c.peek then
      let c := c.lineBreak.2
      orMalformed <|
        (quotedBreaks (c.rest.length + 1) c).map fun (breaks, c) => (breaks.flatten, c)
    else .error .malformed

/-- Whether a character stands for itself inside quotes. -/
def isPlainQuoted (c : Char) : Bool := !(c == '\'' || c == '"' || c == '\\' || isWordEnd c)

/-- The blanks between two words of a quoted scalar. -/
def quotedSpaces (c : Cursor) : Except Error (Text × Cursor) :=
  let blanks := c.run fun ch => ch == ' ' || ch == '\t'
  let c := c.skip fun ch => ch == ' ' || ch == '\t'
  if c.peek == '\x00' then .error .malformed
  else if isBreak c.peek then
    let (text, c) := c.lineBreak
    orMalformed <|
      (quotedBreaks (c.rest.length + 1) c).map fun (breaks, c) => (fold text breaks, c)
  else .ok (blanks, c)

/-- The text up to the closing quote, and the place after it. -/
def quotedFrom (double : Bool) : Nat → Cursor → Except Error (Text × Cursor)
  | 0, _ => .error .malformed
  | fuel + 1, c =>
    let words := c.run isPlainQuoted
    let continueWith (piece : Text) (c : Cursor) : Except Error (Text × Cursor) :=
      (quotedFrom double fuel c).map fun (more, c) => (piece ++ more, c)
    if !words.isEmpty then continueWith words (c.skip isPlainQuoted)
    else if c.peek == '\'' then
      if double then continueWith ['\''] c.step
      else if c.peekAt 1 == '\'' then continueWith ['\''] (c.advance 2)
      else .ok ([], c.step)
    else if c.peek == '"' then
      if double then .ok ([], c.step) else continueWith ['"'] c.step
    else if c.peek == '\\' then
      if double then
        match escape c.step with
        | .ok (piece, c) => continueWith piece c
        | .error e => .error e
      else continueWith ['\\'] c.step
    else
      match quotedSpaces c with
      | .ok (piece, c) => continueWith piece c
      | .error e => .error e

/-- A quoted scalar at the place of its opening quote. -/
def quoted (c : Cursor) : Except Error (Text × Cursor) :=
  quotedFrom (c.peek == '"') (c.rest.length + 1) c.step

/-! ### Block scalars -/

/-- What becomes of the line breaks at the end of a block: one is kept, none, or all. -/
inductive Chomping
  | clip
  | strip
  | keep
  deriving DecidableEq

/-- A sign that says what becomes of the last line breaks. -/
def chomping? : Char → Option Chomping
  | '+' => some .keep
  | '-' => some .strip
  | _ => none

/-- The signs at the head of a block: what becomes of the last line breaks, and how far the lines
are indented. -/
def blockHeader (c : Cursor) : Option (Chomping × Option Nat × Cursor) :=
  let digit (c : Cursor) : Option (Option Nat × Cursor) :=
    match Text.asciiDigit? c.peek with
    | some 0 => none
    | some n => some (some n, c.step)
    | none => some (none, c)
  let read : Option (Chomping × Option Nat × Cursor) :=
    match chomping? c.peek with
    | some chomping => (digit c.step).map fun (n, c) => (chomping, n, c)
    | none =>
      match digit c with
      | none => none
      | some (none, c) => some (.clip, none, c)
      | some (some n, c) =>
        match chomping? c.peek with
        | some chomping => some (chomping, some n, c.step)
        | none => some (.clip, some n, c)
  match read with
  | some (chomping, n, c) =>
    if c.peek == ' ' || isLineEnd c.peek then some (chomping, n, c) else none
  | none => none

/-- The rest of a line that holds at most a comment. -/
def ignoredLine (c : Cursor) : Option Cursor :=
  let c := c.skip (· == ' ')
  let c := if c.peek == '#' then c.skip (fun ch => !isLineEnd ch) else c
  if isLineEnd c.peek then some c.lineBreak.2 else none

/-- Empty lines at the head of a block, and the widest indentation among them. -/
def blockIndentation : Nat → Nat → Cursor → List Text × Nat × Cursor
  | 0, widest, c => ([], widest, c)
  | fuel + 1, widest, c =>
    if c.peek == ' ' then blockIndentation fuel (max widest c.step.column) c.step
    else if isBreak c.peek then
      let (text, c) := c.lineBreak
      let (more, widest, c) := blockIndentation fuel widest c
      (text :: more, widest, c)
    else ([], widest, c)

/-- The place after up to `indent - column` spaces. -/
def skipIndent (indent : Nat) (c : Cursor) : Cursor :=
  c.advance (min (indent - c.column) (c.run (· == ' ')).length)

/-- Empty lines inside a block. -/
def blockBreaks (indent : Nat) : Nat → Cursor → List Text × Cursor
  | 0, c => ([], c)
  | fuel + 1, c =>
    let c := skipIndent indent c
    if isBreak c.peek then
      let (text, c) := c.lineBreak
      let (more, c) := blockBreaks indent fuel c
      (text :: more, c)
    else ([], c)

/-- The lines of a block: their text, the break after the last of them, and the empty lines after
that. -/
def blockLines (folded : Bool) (indent : Nat) :
    Nat → List Text → Cursor → Text × Text × List Text × Cursor
  | 0, breaks, c => ([], [], breaks, c)
  | fuel + 1, breaks, c =>
    if c.column = indent ∧ c.peek ≠ '\x00' then
      let startsFull := !(c.peek == ' ' || c.peek == '\t')
      let line := c.run fun ch => !isLineEnd ch
      let (text, c) := (c.advance line.length).lineBreak
      let (breaks', c) := blockBreaks indent (c.rest.length + 1) c
      if c.column = indent ∧ c.peek ≠ '\x00' then
        let joint :=
          if folded ∧ text = ['\n'] ∧ startsFull ∧ c.peek ≠ ' ' ∧ c.peek ≠ '\t' then
            if breaks'.isEmpty then [' '] else []
          else text
        let (more, last, after, c) := blockLines folded indent fuel breaks' c
        (breaks.flatten ++ line ++ joint ++ more, last, after, c)
      else (breaks.flatten ++ line, text, breaks', c)
    else ([], [], breaks, c)

/-- A block scalar at the place of its sign; `indent` is the column of the enclosing block. -/
def block (indent : Int) (c : Cursor) : Option (Text × Cursor) :=
  let folded := c.peek == '>'
  match blockHeader c.step with
  | none => none
  | some (chomping, increment, c) =>
    match ignoredLine c with
    | none => none
    | some c =>
      let least := (max (indent + 1) 1).toNat
      let (breaks, column, c) :=
        match increment with
        | none =>
          let (breaks, widest, c) := blockIndentation (c.rest.length + 1) 0 c
          (breaks, max least widest, c)
        | some n =>
          let column := least + n - 1
          let (breaks, c) := blockBreaks column (c.rest.length + 1) c
          (breaks, column, c)
      let (text, last, after, c) := blockLines folded column (c.rest.length + 1) breaks c
      let ending :=
        match chomping with
        | .strip => []
        | .clip => last
        | .keep => last ++ after.flatten
      some (text ++ ending, c)

end MemberAddress.Yaml.Scalar
