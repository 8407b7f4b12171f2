import MemberAddress.Text.Basic

/-!
# Blank characters

The white space of Unicode with the four information separators U+001C to U+001F: what is taken
off the ends of a configured text, and what parts the entries of a member list.

* `Text.isBlank` is the class, `Text.blanks` its members;
* `Text.trim` takes blanks off both ends of a text.
-/

namespace MemberAddress.Text

/-- The blank characters. -/
def blanks : List Char :=
  ['\x09', '\x0a', '\x0b', '\x0c', '\x0d', '\x1c', '\x1d', '\x1e', '\x1f', ' ', '\x85', '\xa0',
    '\u1680', '\u2000', '\u2001', '\u2002', '\u2003', '\u2004', '\u2005', '\u2006', '\u2007',
    '\u2008', '\u2009', '\u200a', '\u2028', '\u2029', '\u202f', '\u205f', '\u3000']

/-- Whether a character is blank. -/
def isBlank (c : Char) : Bool := blanks.contains c

/-- A text without the blanks at its start. -/
def trimStart (t : Text) : Text := t.dropWhile isBlank

/-- A text without the blanks at its end. -/
def trimEnd (t : Text) : Text := (t.reverse.dropWhile isBlank).reverse

/-- A text without the blanks at either end. -/
def trim (t : Text) : Text := trimEnd (trimStart t)

end MemberAddress.Text
