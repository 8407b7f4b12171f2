import MemberAddress.Pattern.Basic
import Mathlib.Tactic

/-!
# The groups of an address

An address is its number, and its number is its groups read as digits (`Inet.groups_eq_iff`). A
pattern of segments looks at the groups one by one (`Pattern.covers_segments_iff`), and a pattern
whose segments have one value each selects one address (`Pattern.covers_exact_iff`).
-/

namespace MemberAddress

/-! ### Digits -/

section Digits

variable {base : Nat} {ds : List Nat}

/-- Writing a number in a base and reading it back keeps what the digits can hold. -/
theorem ofDigitsIn_digitsIn (base count n : Nat) :
    ofDigitsIn base (digitsIn base count n) = n % base ^ count := by
  induction count generalizing n with
  | zero => simp [digitsIn, ofDigitsIn, Nat.mod_one]
  | succ count ih =>
    rw [digitsIn, ofDigitsIn_append_singleton, ih, Nat.pow_succ, Nat.mul_comm (base ^ count) base,
      Nat.mod_mul, Nat.mul_comm base, Nat.add_comm]

/-- Reading digits as a number and writing it out again gives the digits. -/
theorem digitsIn_ofDigitsIn (h : ∀ d ∈ ds, d < base) :
    digitsIn base ds.length (ofDigitsIn base ds) = ds := by
  -- from the end, where both functions take the last digit off
  induction ds using List.reverseRecOn with
  | nil => rfl
  | append_singleton ds d ih =>
    have hd : d < base := h d (by simp)
    have hds : ∀ e ∈ ds, e < base := fun e he => h e (by simp [he])
    have hfront : (d + ofDigitsIn base ds * base) / base = ofDigitsIn base ds := by
      rw [Nat.add_mul_div_right _ _ (by omega), Nat.div_eq_of_lt hd, Nat.zero_add]
    have hlast : (d + ofDigitsIn base ds * base) % base = d := by
      rw [Nat.add_mul_mod_self_right, Nat.mod_eq_of_lt hd]
    rw [ofDigitsIn_append_singleton, Nat.add_comm, List.length_append, List.length_singleton,
      digitsIn, hfront, hlast, ih hds]

theorem ofDigitsIn_lt (h : ∀ d ∈ ds, d < base) : ofDigitsIn base ds < base ^ ds.length := by
  induction ds using List.reverseRecOn with
  | nil => simp [ofDigitsIn]
  | append_singleton ds d ih =>
    have hd : d < base := h d (by simp)
    have hds := ih fun e he => h e (by simp [he])
    rw [ofDigitsIn_append_singleton, List.length_append, List.length_singleton, Nat.pow_succ]
    calc ofDigitsIn base ds * base + d < ofDigitsIn base ds * base + base := by omega
      _ = (ofDigitsIn base ds + 1) * base := by ring
      _ ≤ base ^ ds.length * base := Nat.mul_le_mul_right base hds

end Digits

/-! ### Groups and numbers -/

theorem Version.groupBase_pow (v : Version) : v.groupBase ^ v.groupCount = 2 ^ v.width := by
  cases v <;> decide

namespace Inet

theorem number_lt (x : Inet) : x.number < 2 ^ x.version.width := by
  cases x with
  | v4 bits => exact bits.isLt
  | v6 bits _ => exact bits.isLt

/-- An address is made up of its groups. -/
theorem ofDigitsIn_groups (x : Inet) : ofDigitsIn x.version.groupBase x.groups = x.number := by
  rw [groups, ofDigitsIn_digitsIn, Version.groupBase_pow, Nat.mod_eq_of_lt x.number_lt]

/-- The groups of an address are given by its number alone. -/
theorem groups_eq_iff {x : Inet} {gs : List Nat} (hlen : gs.length = x.version.groupCount)
    (h : ∀ g ∈ gs, g < x.version.groupBase) :
    x.groups = gs ↔ x.number = ofDigitsIn x.version.groupBase gs := by
  constructor
  · intro hx
    rw [← hx, ofDigitsIn_groups]
  · intro hx
    rw [groups, hx, ← hlen, digitsIn_ofDigitsIn h]

@[simp] theorem version_ofNumber (v : Version) (n : Nat) : (ofNumber v n).version = v := by
  cases v <;> rfl

theorem number_ofNumber {v : Version} {n : Nat} (h : n < 2 ^ v.width) :
    (ofNumber v n).number = n := by
  cases v with
  | v4 => exact Nat.mod_eq_of_lt h
  | v6 => exact Nat.mod_eq_of_lt h

/-- The address whose groups are the given ones. -/
theorem number_ofNumber_ofDigitsIn {v : Version} {gs : List Nat} (hlen : gs.length = v.groupCount)
    (h : ∀ g ∈ gs, g < v.groupBase) :
    (ofNumber v (ofDigitsIn v.groupBase gs)).number = ofDigitsIn v.groupBase gs := by
  refine number_ofNumber ?_
  rw [← Version.groupBase_pow, ← hlen]
  exact ofDigitsIn_lt h

end Inet

/-! ### Patterns of segments -/

/-- The span of one value. -/
def Span.exact (n : Nat) : Span := ⟨n, n⟩

/-- A value lies in a span. -/
def Span.Has (s : Span) (n : Nat) : Prop := s.low ≤ n ∧ n ≤ s.high

theorem Span.contains_iff {s : Span} {n : Nat} : s.contains n = true ↔ s.Has n := by
  simp [contains, Has]

theorem Span.has_exact_iff {m n : Nat} : (exact m).Has n ↔ m = n :=
  ⟨fun h => le_antisymm h.1 h.2, fun h => ⟨h.le, h.ge⟩⟩

namespace Pattern

/-- With as many spans as values, every value lies in the span at its place. -/
theorem spansContain_iff {spans : List Span} {ns : List Nat} (hlen : spans.length = ns.length) :
    spansContain spans ns = true ↔ List.Forall₂ Span.Has spans ns := by
  induction spans generalizing ns with
  | nil =>
    obtain rfl : ns = [] := List.length_eq_zero_iff.1 hlen.symm
    simp [spansContain]
  | cons span spans ih =>
    obtain ⟨n, ns, rfl⟩ := List.exists_cons_of_length_pos (l := ns) (by rw [← hlen]; simp)
    have hlen : spans.length = ns.length := by simpa using hlen
    simp [spansContain, Span.contains_iff, ih hlen]

/-- A pattern of segments selects an address when each group lies in the span at its place. -/
theorem covers_segments_iff {v : Version} {spans : List Span} (hlen : spans.length = v.groupCount)
    (x : Inet) :
    (segments v spans).covers x = true ↔
      x.version = v ∧ List.Forall₂ Span.Has spans x.groups := by
  simp only [covers, version, Bool.and_eq_true, beq_iff_eq]
  refine and_congr_right fun hv => spansContain_iff ?_
  rw [hlen, x.length_groups, hv]

/-- Segments of one value each are the address with these groups. -/
theorem covers_exact_iff {v : Version} {gs : List Nat} (hlen : gs.length = v.groupCount)
    (h : ∀ g ∈ gs, g < v.groupBase) (x : Inet) :
    (segments v (gs.map Span.exact)).covers x = true ↔
      x.version = v ∧ x.number = ofDigitsIn v.groupBase gs := by
  rw [covers_segments_iff (by rw [List.length_map, hlen])]
  refine and_congr_right fun hv => ?_
  subst hv
  have hexact : List.Forall₂ Span.Has (gs.map Span.exact) x.groups ↔ gs = x.groups := by
    simp only [List.forall₂_map_left_iff, Span.has_exact_iff, List.forall₂_eq_eq_eq]
  rw [hexact, eq_comm, Inet.groups_eq_iff hlen h]

end Pattern

end MemberAddress
