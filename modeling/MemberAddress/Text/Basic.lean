/-!
# Text

Hosts, patterns, messages and configuration values are texts: lists of characters.

* `Text.cut` and `Text.cutLast` divide a text at the first or the last separator;
* `Text.pieces` divides it at every separator of a class, `Text.fields` at every occurrence of one;
* `Text.decimal`, `Text.padded`, `Text.integer` and `Text.hexadecimal` write numbers.

The lemmas say where a text is divided: at a separator if it holds one, and else not at all.
-/

namespace MemberAddress

/-- A text is the list of its characters. -/
abbrev Text := List Char

namespace Text

/-! ### Dividing a text -/

/-- The text before the first `sep` and, when there is one, the text after it. -/
def cut (sep : Char) : Text → Text × Option Text
  | [] => ([], none)
  | c :: rest =>
    if c = sep then ([], some rest)
    else (c :: (cut sep rest).1, (cut sep rest).2)

/-- The text before the first `sep`; the whole text when there is none. -/
def before (sep : Char) (t : Text) : Text := (cut sep t).1

/-- The texts before and after the last `sep`; with no `sep`, nothing and the whole text. -/
def cutLast (sep : Char) (t : Text) : Text × Text :=
  match cut sep t.reverse with
  | (_, none) => ([], t)
  | (after, some before) => (before.reverse, after.reverse)

/-- A character put in front of the first piece. -/
def consFirst (c : Char) : List Text → List Text
  | [] => [[c]]
  | piece :: more => (c :: piece) :: more

/-- The pieces of a text between separators; a text without a separator is its only piece. -/
def pieces (isSeparator : Char → Bool) : Text → List Text
  | [] => [[]]
  | c :: rest =>
    if isSeparator c then [] :: pieces isSeparator rest
    else consFirst c (pieces isSeparator rest)

/-- The pieces of a text between the occurrences of one separator. -/
def fields (sep : Char) (t : Text) : List Text := pieces (· == sep) t

/-- Every occurrence of `old` replaced by `new`. -/
def replace (old new : Char) (t : Text) : Text := t.map fun c => if c = old then new else c

/-- The ASCII letters in lower case, all else as it is. -/
def lower (t : Text) : Text := t.map Char.toLower

/-! ### Writing numbers -/

/-- A natural number in decimal digits. -/
def decimal (n : Nat) : Text := Nat.toDigits 10 n

/-- A natural number in at least `width` decimal digits. -/
def padded (width n : Nat) : Text := List.replicate (width - (decimal n).length) '0' ++ decimal n

/-- An integer in decimal digits, with a minus sign when it is negative. -/
def integer : Int → Text
  | .ofNat n => decimal n
  | .negSucc n => '-' :: decimal (n + 1)

/-- A natural number in lower-case hexadecimal digits. -/
def hexadecimal (n : Nat) : Text := Nat.toDigits 16 n

/-- A natural number in at least `width` lower-case hexadecimal digits. -/
def paddedHexadecimal (width n : Nat) : Text :=
  List.replicate (width - (hexadecimal n).length) '0' ++ hexadecimal n

/-! ### What dividing gives -/

theorem consFirst_ne_nil (c : Char) (ps : List Text) : consFirst c ps ≠ [] := by
  cases ps <;> simp [consFirst]

theorem pieces_ne_nil (isSeparator : Char → Bool) (t : Text) : pieces isSeparator t ≠ [] := by
  cases t with
  | nil => simp [pieces]
  | cons c rest =>
    cases h : isSeparator c with
    | true => simp [pieces, h]
    | false => simp [pieces, h, consFirst_ne_nil]

theorem cut_eq_of_notMem {sep : Char} {t : Text} (h : sep ∉ t) : cut sep t = (t, none) := by
  induction t with
  | nil => rfl
  | cons c rest ih =>
    have hc : c ≠ sep := fun e => h (by simp [e])
    have hr : sep ∉ rest := fun m => h (List.mem_cons_of_mem _ m)
    simp [cut, hc, ih hr]

theorem cut_append {sep : Char} {t : Text} (h : sep ∉ t) (rest : Text) :
    cut sep (t ++ sep :: rest) = (t, some rest) := by
  induction t with
  | nil => simp [cut]
  | cons c t ih =>
    have hc : c ≠ sep := fun e => h (by simp [e])
    have hr : sep ∉ t := fun m => h (List.mem_cons_of_mem _ m)
    simp [cut, hc, ih hr]

theorem notMem_before (sep : Char) (t : Text) : sep ∉ before sep t := by
  induction t with
  | nil => simp [before, cut]
  | cons c rest ih =>
    by_cases h : c = sep
    · simp [before, cut, h]
    · simp only [before, cut, h, if_false, List.mem_cons, not_or]
      exact ⟨fun e => h e.symm, ih⟩

end Text

end MemberAddress
