import MemberAddress.Text.Basic

/-!
# Places in a document

* `Yaml.Cursor` is a place in a document with the text after it;
* `Yaml.Cursor.step` and `Yaml.Cursor.advance` move it and keep count of lines and columns;
* the character classes name what ends a line or a word.
-/

namespace MemberAddress.Yaml

/-! ### Characters -/

/-- Whether a character ends a line. -/
def isBreak (c : Char) : Bool :=
  c == '\n' || c == '\r' || c == '\x85' || c == '\u2028' || c == '\u2029'

/-- Whether a character ends a line or the document, whose end is read as NUL. -/
def isLineEnd (c : Char) : Bool := c == '\x00' || isBreak c

/-- Whether a character ends a word. -/
def isWordEnd (c : Char) : Bool := c == ' ' || c == '\t' || isLineEnd c

/-- Whether a document may hold a character at all. -/
def isAllowed (c : Char) : Bool :=
  let n := c.toNat
  n == 0x09 || n == 0x0a || n == 0x0d || (0x20 ≤ n && n ≤ 0x7e) || n == 0x85 ||
    (0xa0 ≤ n && n ≤ 0xd7ff) || (0xe000 ≤ n && n ≤ 0xfffd) || 0x10000 ≤ n

/-- Whether a character may stand in the name of an anchor. -/
def isNameChar (c : Char) : Bool := c.isAlphanum || c == '-' || c == '_'

/-! ### Places -/

/-- A place in a document: the text after it, how many characters, lines and columns are before
it. -/
structure Cursor where
  rest : Text
  index : Nat
  line : Nat
  column : Nat

namespace Cursor

/-- The start of a document. -/
def start (t : Text) : Cursor := ⟨t, 0, 0, 0⟩

/-- The character after a place. -/
def peek (c : Cursor) : Char := c.rest.headD '\x00'

/-- The character `n` places further on. -/
def peekAt (c : Cursor) (n : Nat) : Char := (c.rest.drop n).headD '\x00'

/-- The place after the next character. -/
def step (c : Cursor) : Cursor :=
  match c.rest with
  | [] => c
  | ch :: rest =>
    if isBreak ch && !(ch == '\r' && rest.head? == some '\n') then
      ⟨rest, c.index + 1, c.line + 1, 0⟩
    else ⟨rest, c.index + 1, c.line, if ch == '\ufeff' then c.column else c.column + 1⟩

/-- The place after `n` characters. -/
def advance : Nat → Cursor → Cursor
  | 0, c => c
  | n + 1, c => advance n c.step

/-- The characters of a class that come next. -/
def run (c : Cursor) (p : Char → Bool) : Text := c.rest.takeWhile p

/-- The place after the characters of a class. -/
def skip (c : Cursor) (p : Char → Bool) : Cursor := c.advance (c.run p).length

/-- The place after a line break, with the text that the break stands for; none without a break. -/
def lineBreak (c : Cursor) : Text × Cursor :=
  match c.rest with
  | '\r' :: '\n' :: _ => (['\n'], c.advance 2)
  | '\u2028' :: _ => (['\u2028'], c.step)
  | '\u2029' :: _ => (['\u2029'], c.step)
  | ch :: _ => if isBreak ch then (['\n'], c.step) else ([], c)
  | [] => ([], c)

/-- Whether a marker of three characters stands at a place by itself. -/
def atMarker (c : Cursor) (marker : Text) : Bool :=
  c.rest.take 3 == marker && isWordEnd (c.peekAt 3)

/-- Whether the start or the end of a document stands at a place. -/
def atDocumentMark (c : Cursor) : Bool := c.atMarker "---".toList || c.atMarker "...".toList

end Cursor

end MemberAddress.Yaml
