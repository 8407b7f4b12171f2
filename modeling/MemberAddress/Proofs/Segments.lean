import MemberAddress.Proofs.Groups
import MemberAddress.Proofs.Literal

/-!
# Segments of patterns

A segment is a star, a numeral, or two numerals with a hyphen between them. `Segment` is a segment
as data, `Segment.text` its text and `Segment.span` the values that it stands for;
`Pattern.readSegments_text` says that reading the texts gives the values.
-/

namespace MemberAddress

/-- How the groups of a version are written in a pattern. -/
def Version.style : Version → Pattern.SegmentStyle
  | .v4 => Pattern.octetStyle
  | .v6 => Pattern.groupStyle

/-! ### Digits and signs -/

/-- The signs that have a meaning in a pattern or around it. -/
def Pattern.signs : List Char := "*-/%:.".toList ++ Text.blanks

/-- No sign is a digit. -/
theorem Version.digit?_of_sign (v : Version) {c : Char} (hc : c ∈ Pattern.signs) :
    v.style.digit? c = none := by
  have hdecimal : (Pattern.signs.all fun c => (Text.digit? c).isNone) = true := by decide +kernel
  have hhex : (Pattern.signs.all fun c => (Text.hexDigit? c).isNone) = true := by decide +kernel
  cases v with
  | v4 => exact Option.isNone_iff_eq_none.1 (List.all_eq_true.1 hdecimal c hc)
  | v6 => exact Option.isNone_iff_eq_none.1 (List.all_eq_true.1 hhex c hc)

namespace Text

variable {base : Nat} {f g : Char → Option Nat} {t : Text} {n : Nat}

/-- A reader that knows more digits reads the same numerals. -/
theorem numeral?_mono (hfg : ∀ c d, f c = some d → g c = some d)
    (h : numeral? base f t = some n) : numeral? base g t = some n := by
  have hcontinue : ∀ {t : Text} {value : Nat}, continueNumeral? base f value t = some n →
      continueNumeral? base g value t = some n := by
    intro t
    induction t with
    | nil => exact fun h => h
    | cons c rest ih =>
      intro value h
      unfold continueNumeral? at h ⊢
      split at h
      · cases h
      · next d hd =>
        rw [hfg c d hd]
        exact ih h
  unfold numeral? at h ⊢
  split at h
  · cases h
  · next hne =>
    rw [if_neg hne]
    exact hcontinue h

/-- A numeral is less than the power of the base with its length. -/
theorem numeral?_lt (hf : ∀ c d, f c = some d → d < base) (h : numeral? base f t = some n) :
    n < base ^ t.length := by
  have hcontinue : ∀ {t : Text} {value : Nat}, continueNumeral? base f value t = some n →
      n < (value + 1) * base ^ t.length := by
    intro t
    induction t with
    | nil =>
      intro value h
      cases h
      simp
    | cons c rest ih =>
      intro value h
      unfold continueNumeral? at h
      split at h
      · cases h
      · next d hd =>
        have hd := hf c d hd
        calc n < (value * base + d + 1) * base ^ rest.length := ih h
          _ ≤ (value * base + base) * base ^ rest.length := Nat.mul_le_mul_right _ (by omega)
          _ = (value + 1) * base ^ (c :: rest).length := by
            rw [List.length_cons, Nat.pow_succ]
            ring
  unfold numeral? at h
  split at h
  · cases h
  · simpa using hcontinue h

theorem continueNumeral?_concat (value : Nat) (t : Text) (c : Char) :
    continueNumeral? base f value (t ++ [c]) =
      (continueNumeral? base f value t).bind fun n => (f c).map (n * base + ·) := by
  induction t generalizing value with
  | nil =>
    rw [List.nil_append, continueNumeral?]
    cases hc : f c with
    | none => simp [continueNumeral?, hc]
    | some d => simp [continueNumeral?, hc]
  | cons e rest ih =>
    rw [List.cons_append, continueNumeral?, continueNumeral?]
    cases f e with
    | none => rfl
    | some d => exact ih _

/-- The digits of a number are a numeral of it. -/
theorem numeral?_toDigits (hb : 1 < base) (hf : ∀ d < base, f (Nat.digitChar d) = some d)
    (n : Nat) : numeral? base f (Nat.toDigits base n) = some n := by
  have hcontinue : continueNumeral? base f 0 (Nat.toDigits base n) = some n := by
    induction n using Nat.strongRecOn with
    | ind n ih =>
      rw [Nat.toDigits_eq_if hb]
      split
      · next hlt => simp [continueNumeral?, hf n hlt]
      · next hlt =>
        have hdiv : n / base < n := Nat.div_lt_self (by omega) hb
        rw [continueNumeral?_concat, ih _ hdiv, hf _ (Nat.mod_lt n (by omega))]
        exact congrArg some (Nat.div_add_mod' n base)
  rw [numeral?, if_neg Nat.toDigits_ne_nil, hcontinue]

/-- A numeral without a needless zero in front consists of the digits of its number. -/
theorem eq_toDigits_of_numeral? (hb : 1 < base)
    (hf : ∀ c d, f c = some d → d < base ∧ c = Nat.digitChar d)
    (h : numeral? base f t = some n) (hzero : t.head? = some '0' → t = ['0']) :
    t = Nat.toDigits base n := by
  have hne : t ≠ [] := ne_nil_of_numeral? h
  rw [numeral?, if_neg hne] at h
  -- the last digit comes off the end, and what is left has no needless zero either
  induction t using List.reverseRecOn generalizing n with
  | nil => exact absurd rfl hne
  | append_singleton front c ih =>
    rw [continueNumeral?_concat] at h
    obtain ⟨m, hm, h⟩ := Option.bind_eq_some_iff.1 h
    obtain ⟨d, hd, rfl⟩ := Option.map_eq_some_iff.1 h
    obtain ⟨hlt, rfl⟩ := hf c d hd
    cases hfront : front with
    | nil =>
      rw [hfront] at hm
      cases hm
      rw [Nat.zero_mul, Nat.zero_add, Nat.toDigits_of_lt_base hlt]
      rfl
    | cons first more =>
      have hhead : front.head? ≠ some '0' := fun hz => by
        have hlen := congrArg List.length (hzero (by rw [hfront] at hz ⊢; exact hz))
        simp [hfront] at hlen
      have hdigits : front = Nat.toDigits base m :=
        ih hm (fun hz => absurd hz hhead) (by simp [hfront])
      have hpos : 0 < m := Nat.pos_of_ne_zero fun hz => by
        rw [hdigits, hz, Nat.toDigits_zero] at hhead
        exact hhead rfl
      rw [← hfront, hdigits, ← Nat.toDigits_of_lt_base hlt,
        Nat.toDigits_append_toDigits hb hpos hlt, Nat.mul_comm]

theorem digit?_of_asciiDigit? {c : Char} {d : Nat} (h : asciiDigit? c = some d) :
    digit? c = some d := by
  unfold asciiDigit? at h
  split at h
  · next hc =>
    have hlow : 0x30 ≤ c.toNat := hc.1
    have hhigh : c.toNat ≤ 0x39 := hc.2
    have hfind : decimalZeros.find? (fun first => first ≤ c.toNat && c.toNat < first + 10) =
        some 0x30 := List.find?_cons_of_pos (by simp; omega)
    rw [digit?, hfind]
    exact h
  · cases h

theorem eq_digitChar_of_asciiDigit? {c : Char} {d : Nat} (h : asciiDigit? c = some d) :
    d < 10 ∧ c = Nat.digitChar d := by
  unfold asciiDigit? at h
  split at h
  · next hc =>
    have hlow : 48 ≤ c.toNat := hc.1
    have hhigh : c.toNat ≤ 57 := hc.2
    obtain rfl : c.toNat - 48 = d := Option.some.inj h
    have hlt : c.toNat - 48 < 10 := by omega
    refine ⟨hlt, Char.toNat_inj.1 ?_⟩
    rw [Nat.toNat_digitChar_of_lt_ten hlt]
    omega
  · cases h

theorem hexDigit?_lt {c : Char} {d : Nat} (h : hexDigit? c = some d) : d < 16 := by
  unfold hexDigit? at h
  split_ifs at h with h1 h2 h3
  · have hhigh : c.toNat ≤ 0x39 := h1.2
    have hd : c.toNat - 0x30 = d := by simpa using h
    omega
  · have hhigh : c.toNat ≤ 0x66 := h2.2
    have hd : c.toNat - 0x61 + 10 = d := by simpa using h
    omega
  · have hhigh : c.toNat ≤ 0x46 := h3.2
    have hd : c.toNat - 0x41 + 10 = d := by simpa using h
    omega

end Text

/-! ### Segments as data -/

variable {v : Version}

/-- A numeral that may stand in a segment. -/
structure Numeral (v : Version) where
  text : Text
  value : Nat
  length_le : text.length ≤ v.style.digits
  reads : Text.numeral? v.style.base v.style.digit? text = some value

/-- A segment of a pattern. -/
inductive Segment (v : Version)
  | any
  | one (n : Numeral v) (hle : n.value ≤ v.style.highest)
  | between (low high : Numeral v) (hle : low.value ≤ high.value)
      (hhigh : high.value ≤ v.style.highest)

namespace Numeral

/-- The digits of a value without zeros in front. -/
def ofNat (n : Nat) (hle : n ≤ v.style.highest) : Numeral v where
  text := Nat.toDigits v.style.base n
  value := n
  length_le := by
    cases v with
    | v4 =>
      have hle : n ≤ 0xff := hle
      exact (Nat.length_toDigits_le_iff (by decide) (by decide)).2 (hle.trans_lt (by decide))
    | v6 =>
      have hle : n ≤ 0xffff := hle
      exact (Nat.length_toDigits_le_iff (by decide) (by decide)).2 (hle.trans_lt (by decide))
  reads := by
    cases v with
    | v4 => exact Text.numeral?_toDigits (by decide) (by decide) n
    | v6 => exact Text.numeral?_toDigits (by decide) (by decide) n

theorem ne_nil (n : Numeral v) : n.text ≠ [] := Text.ne_nil_of_numeral? n.reads

theorem notMem_of_sign (n : Numeral v) {c : Char} (hc : c ∈ Pattern.signs) : c ∉ n.text := by
  intro hm
  have hd := Text.isSome_of_numeral? n.reads c hm
  rw [v.digit?_of_sign hc] at hd
  cases hd

/-- A numeral is a bound of a segment. -/
theorem readBound? (n : Numeral v) : Pattern.readBound? v.style n.text = some n.value := by
  have hlast : n.text.getLast? ≠ some '\n' := fun h =>
    n.notMem_of_sign (by decide) (List.mem_of_getLast? h)
  have hdrop : Pattern.dropFinalNewline n.text = n.text := if_neg hlast
  simp only [Pattern.readBound?, hdrop]
  rw [if_neg (Nat.not_lt.2 n.length_le), n.reads]

end Numeral

namespace Segment

/-- The text of a segment. -/
def text : Segment v → Text
  | any => ['*']
  | one n _ => n.text
  | between low high _ _ => low.text ++ '-' :: high.text

/-- The values that a segment stands for. -/
def span : Segment v → Span
  | any => ⟨0, v.style.highest⟩
  | one n _ => .exact n.value
  | between low high _ _ => ⟨low.value, high.value⟩

theorem text_ne_nil (g : Segment v) : g.text ≠ [] := by
  cases g with
  | any => simp [text]
  | one n _ => exact n.ne_nil
  | between low high _ _ => simp [text]

/-- A segment has no other signs than the star and the hyphen. -/
theorem notMem_text (g : Segment v) {c : Char} (hc : c ∈ Pattern.signs) (hstar : c ≠ '*')
    (hhyphen : c ≠ '-') : c ∉ g.text := by
  cases g with
  | any => simpa [text] using hstar
  | one n _ => exact n.notMem_of_sign hc
  | between low high _ _ =>
    simp [text, low.notMem_of_sign hc, high.notMem_of_sign hc, hhyphen]

end Segment

/-- Reading the text of a segment gives its values. -/
theorem Pattern.readSegment_text (g : Segment v) : readSegment v.style g.text = .ok g.span := by
  cases g with
  | any => rfl
  | one n hle =>
    have hstar : n.text ≠ ['*'] := by
      intro h
      exact n.notMem_of_sign (c := '*') (by decide) (by simp [h])
    have hcut : Text.cut '-' n.text = (n.text, none) :=
      Text.cut_eq_of_notMem (n.notMem_of_sign (by decide))
    have hbounds : ¬ (n.value < n.value ∨ v.style.highest < n.value) := by omega
    simp only [readSegment, Segment.text, if_neg hstar, hcut, Option.getD_none, n.readBound?,
      if_neg hbounds, Segment.span, Span.exact]
  | between low high hle hhigh =>
    have hstar : low.text ++ '-' :: high.text ≠ ['*'] := by
      intro h
      have hm : '-' ∈ low.text ++ '-' :: high.text := by simp
      rw [h] at hm
      revert hm
      decide
    have hcut : Text.cut '-' (low.text ++ '-' :: high.text) = (low.text, some high.text) :=
      Text.cut_append (low.notMem_of_sign (by decide)) _
    have hbounds : ¬ (high.value < low.value ∨ v.style.highest < high.value) := by omega
    simp only [readSegment, Segment.text, if_neg hstar, hcut, Option.getD_some, low.readBound?,
      high.readBound?, if_neg hbounds, Segment.span]

theorem Pattern.readSegments_text (segments : List (Segment v)) :
    readSegments v.style (segments.map Segment.text) = .ok (segments.map Segment.span) := by
  induction segments with
  | nil => rfl
  | cons g rest ih => simp [readSegments, readSegment_text, ih]

end MemberAddress
