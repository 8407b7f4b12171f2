import MemberAddress.Text.Printable
import MemberAddress.Text.Surrogate

/-!
# Quoted texts

Messages and lists show a text between quotes, with escapes for what would not print.

* `Text.quoted` writes a text between single quotes, or between double quotes when it holds a
  single quote and no double one;
* `Text.escape` writes one character, `Text.escapeCode` its code point;
* `Text.asciiOnly` writes what a text holds beyond ASCII by code points.
-/

namespace MemberAddress.Text

/-- The quote sign around a text: single, unless that occurs in the text and the double one does
not. -/
def quoteSign (t : Text) : Char :=
  if t.contains '\'' && !t.contains '"' then '"' else '\''

/-- A character, or the half of a pair that it stands for, by its code in two, four or eight
hexadecimal digits. -/
def escapeCode (c : Char) : Text :=
  if code c < 0x100 then '\\' :: 'x' :: paddedHexadecimal 2 (code c)
  else if code c < 0x10000 then '\\' :: 'u' :: paddedHexadecimal 4 (code c)
  else '\\' :: 'U' :: paddedHexadecimal 8 (code c)

/-- One character of a quoted text: the quote sign and the backslash with a backslash before them,
the usual short escapes, and other unprintable characters by their code point. -/
def escape (quote c : Char) : Text :=
  if c = quote ∨ c = '\\' then ['\\', c]
  else if c = '\n' then ['\\', 'n']
  else if c = '\r' then ['\\', 'r']
  else if c = '\t' then ['\\', 't']
  else if isPrintable c then [c]
  else escapeCode c

/-- A text between quotes. -/
def quoted (t : Text) : Text :=
  quoteSign t :: t.flatMap (escape (quoteSign t)) ++ [quoteSign t]

/-- A text with every character beyond ASCII by its code point. -/
def asciiOnly (t : Text) : Text := t.flatMap fun c => if c.toNat < 0x80 then [c] else escapeCode c

/-- An optional text between quotes; `None` when there is none. -/
def quotedOption : Option Text → Text
  | none => "None".toList
  | some t => quoted t

/-- Texts between brackets, each quoted. -/
def quotedList (ts : List Text) : Text :=
  '[' :: List.intercalate ", ".toList (ts.map quoted) ++ [']']

end MemberAddress.Text
