import MemberAddress.Text.Basic

/-!
# Halves of surrogate pairs

The codes from 0xd800 to 0xdfff are halves of pairs and no characters. A text may ask for one of them
by its code all the same, and then shows that code and nothing else. It is kept as a character of
plane nine, where there are none.

* `Text.ofSurrogate?` is the character that stands for a half, `Text.surrogate?` the half that a
  character stands for;
* `Text.code` is the code of a character or of the half that it stands for.
-/

namespace MemberAddress.Text

/-- The codes of halves: the first one and the one after the last. -/
def surrogates : Nat × Nat := (0xd800, 0xe000)

/-- How far the character that stands for a half is from its code. -/
def surrogateShift : Nat := 0x90000

/-- The character that stands for the half with a code. -/
def ofSurrogate? (code : Nat) : Option Char :=
  if surrogates.1 ≤ code ∧ code < surrogates.2 then some (Char.ofNat (code + surrogateShift))
  else none

/-- The code of the half that a character stands for. -/
def surrogate? (c : Char) : Option Nat :=
  if surrogates.1 + surrogateShift ≤ c.toNat ∧ c.toNat < surrogates.2 + surrogateShift then
    some (c.toNat - surrogateShift)
  else none

/-- The code of a character, or of the half that it stands for. -/
def code (c : Char) : Nat := (surrogate? c).getD c.toNat

/-- The character that stands for a half stands for that half. -/
theorem surrogate?_of_ofSurrogate? {code : Nat} {c : Char} (h : ofSurrogate? code = some c) :
    surrogate? c = some code := by
  unfold ofSurrogate? at h
  split at h
  · next bounds =>
    simp only [surrogates, surrogateShift, Option.some.injEq] at bounds h
    have valid : (code + 0x90000).isValidChar := Or.inr ⟨by omega, by omega⟩
    have value : c.toNat = code + 0x90000 := by
      rw [← h, Char.ofNat, dif_pos valid]
      rfl
    simp only [surrogate?, surrogates, surrogateShift, value]
    rw [if_pos (by omega)]
    simp
  · simp at h

end MemberAddress.Text
