import MemberAddress.Text.Basic

/-!
# Bytes

* `Bytes.ofBase64?` reads bytes in base sixty-four;
* `Bytes.trim` takes blanks off both ends;
* `Bytes.shown` is their form in a list, and wherever else bytes are shown.
-/

namespace MemberAddress

/-- A list of bytes. -/
abbrev Bytes := List UInt8

namespace Bytes

/-! ### Base sixty-four -/

/-- The value of a digit in base sixty-four. -/
def sextet? (c : Char) : Option Nat :=
  if 'A' ≤ c ∧ c ≤ 'Z' then some (c.toNat - 'A'.toNat)
  else if 'a' ≤ c ∧ c ≤ 'z' then some (c.toNat - 'a'.toNat + 26)
  else if '0' ≤ c ∧ c ≤ '9' then some (c.toNat - '0'.toNat + 52)
  else if c = '+' then some 62
  else if c = '/' then some 63
  else none

/-- The state of reading: the place in a group of four digits, the bits not yet part of a byte, and
how many signs of padding came one after another. -/
structure Group where
  place : Nat
  bits : Nat
  padding : Nat

/-- The bytes of digits that continue a group. Padding that completes a group ends the text; other
padding and other characters are passed over. A text that ends within a group denotes nothing. -/
def ofDigits? (g : Group) : Text → Option Bytes
  | [] => if g.place = 0 then some [] else none
  | c :: rest =>
    if c = '=' then
      if 2 ≤ g.place then
        if 4 ≤ g.place + g.padding + 1 then some []
        else ofDigits? { g with padding := g.padding + 1 } rest
      else ofDigits? g rest
    else
      match sextet? c with
      | none => ofDigits? g rest
      | some d =>
        let bits := g.bits * 64 + d
        match g.place with
        | 0 => ofDigits? ⟨1, bits, 0⟩ rest
        | 1 => (ofDigits? ⟨2, bits % 16, 0⟩ rest).map ((bits / 16).toUInt8 :: ·)
        | 2 => (ofDigits? ⟨3, bits % 4, 0⟩ rest).map ((bits / 4).toUInt8 :: ·)
        | _ => (ofDigits? ⟨0, 0, 0⟩ rest).map (bits.toUInt8 :: ·)

/-- The bytes that a text in base sixty-four denotes. -/
def ofBase64? (t : Text) : Option Bytes := ofDigits? ⟨0, 0, 0⟩ t

/-! ### Blanks -/

/-- Whether a byte is a blank of ASCII: a space, or one of the controls from tabulator to carriage
return. -/
def isBlank (b : UInt8) : Bool := b == 0x20 || (0x09 ≤ b && b ≤ 0x0d)

/-- Bytes without blanks at both ends. -/
def trim (bs : Bytes) : Bytes := ((bs.dropWhile isBlank).reverse.dropWhile isBlank).reverse

/-! ### Writing -/

/-- The quote sign around bytes: single, unless that occurs among them and the double one does
not. -/
def quoteSign (bs : Bytes) : Char :=
  let chars := bs.map fun b => Char.ofNat b.toNat
  if chars.contains '\'' && !chars.contains '"' then '"' else '\''

/-- One byte between quotes: as the character of ASCII that it is, if that is printable. -/
def escape (quote : Char) (b : UInt8) : Text :=
  let c := Char.ofNat b.toNat
  if c = quote ∨ c = '\\' then ['\\', c]
  else if c = '\n' then ['\\', 'n']
  else if c = '\r' then ['\\', 'r']
  else if c = '\t' then ['\\', 't']
  else if ' ' ≤ c ∧ c ≤ '~' then [c]
  else '\\' :: 'x' :: Text.paddedHexadecimal 2 b.toNat

/-- Bytes between quotes. -/
def shown (bs : Bytes) : Text :=
  'b' :: quoteSign bs :: bs.flatMap (escape (quoteSign bs)) ++ [quoteSign bs]

end Bytes

end MemberAddress
