import MemberAddress.Text.Basic

/-!
# Digits and numerals

A port or a segment of a pattern may be written in the decimal digits of any script, a group of
an IPv6 address in the hexadecimal digits of ASCII.

* `Text.digit?` is the value of a decimal digit of any script, `Text.asciiDigit?` and
  `Text.hexDigit?` are those of ASCII;
* `Text.isDigitSymbol` also admits superscripts and the like, which look like digits but stand
  for no decimal numeral;
* `Text.numeral?` is the number that a non-empty run of digits denotes.
-/

namespace MemberAddress.Text

/-! ### Digits -/

/-- The digit zero of every script; the nine code points after each are its other digits. -/
def decimalZeros : List Nat :=
  [0x30, 0x660, 0x6f0, 0x7c0, 0x966, 0x9e6, 0xa66, 0xae6, 0xb66, 0xbe6, 0xc66, 0xce6, 0xd66, 0xde6,
    0xe50, 0xed0, 0xf20, 0x1040, 0x1090, 0x17e0, 0x1810, 0x1946, 0x19d0, 0x1a80, 0x1a90, 0x1b50,
    0x1bb0, 0x1c40, 0x1c50, 0xa620, 0xa8d0, 0xa900, 0xa9d0, 0xa9f0, 0xaa50, 0xabf0, 0xff10, 0x104a0,
    0x10d30, 0x11066, 0x110f0, 0x11136, 0x111d0, 0x112f0, 0x11450, 0x114d0, 0x11650, 0x116c0,
    0x11730, 0x118e0, 0x11950, 0x11c50, 0x11d50, 0x11da0, 0x16a60, 0x16ac0, 0x16b50, 0x1d7ce,
    0x1d7d8, 0x1d7e2, 0x1d7ec, 0x1d7f6, 0x1e140, 0x1e2f0, 0x1e950, 0x1fbf0]

/-- The value of a decimal digit of any script. -/
def digit? (c : Char) : Option Nat :=
  (decimalZeros.find? fun first => first ≤ c.toNat && c.toNat < first + 10).map (c.toNat - ·)

/-- Whether a character is a decimal digit of some script. -/
def isDigit (c : Char) : Bool := (digit? c).isSome

/-- The value of an ASCII decimal digit. -/
def asciiDigit? (c : Char) : Option Nat :=
  if '0' ≤ c ∧ c ≤ '9' then some (c.toNat - '0'.toNat) else none

/-- The value of an ASCII hexadecimal digit of either case. -/
def hexDigit? (c : Char) : Option Nat :=
  if '0' ≤ c ∧ c ≤ '9' then some (c.toNat - '0'.toNat)
  else if 'a' ≤ c ∧ c ≤ 'f' then some (c.toNat - 'a'.toNat + 10)
  else if 'A' ≤ c ∧ c ≤ 'F' then some (c.toNat - 'A'.toNat + 10)
  else none

/-- Superscript, circled and other digits that belong to no decimal numeral, as ranges of code
points. -/
def digitMarks : List (Nat × Nat) :=
  [(0xb2, 0xb3), (0xb9, 0xb9), (0x1369, 0x1371), (0x19da, 0x19da), (0x2070, 0x2070),
    (0x2074, 0x2079), (0x2080, 0x2089), (0x2460, 0x2468), (0x2474, 0x247c), (0x2488, 0x2490),
    (0x24ea, 0x24ea), (0x24f5, 0x24fd), (0x24ff, 0x24ff), (0x2776, 0x277e), (0x2780, 0x2788),
    (0x278a, 0x2792), (0x10a40, 0x10a43), (0x10e60, 0x10e68), (0x11052, 0x1105a),
    (0x1f100, 0x1f10a)]

/-- Whether a character stands for a digit, be it in a decimal numeral or as a mark. -/
def isDigitSymbol (c : Char) : Bool :=
  isDigit c || digitMarks.any fun range => range.1 ≤ c.toNat && c.toNat ≤ range.2

/-! ### Numerals -/

/-- The number read so far, `value`, continued by a run of digits in `base`. -/
def continueNumeral? (base : Nat) (digit? : Char → Option Nat) (value : Nat) : Text → Option Nat
  | [] => some value
  | c :: rest =>
    match digit? c with
    | none => none
    | some d => continueNumeral? base digit? (value * base + d) rest

/-- The number that a non-empty run of digits in `base` denotes. -/
def numeral? (base : Nat) (digit? : Char → Option Nat) (t : Text) : Option Nat :=
  if t = [] then none else continueNumeral? base digit? 0 t

/-- The most digits that a decimal numeral may have, leading zeros included. -/
def numeralLimit : Nat := 4300

end MemberAddress.Text
