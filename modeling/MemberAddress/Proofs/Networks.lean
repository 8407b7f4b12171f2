import MemberAddress.Inet.Network
import MemberAddress.Proofs.Groups
import MemberAddress.Proofs.Literal

/-!
# Networks

A network is written as an address, with any host bits, and the length of a prefix.

* `Network.read?_append` reads it;
* `Network.contains_of_iff` says that its members are the addresses of its version with the same
  leading bits.
-/

namespace MemberAddress

/-! ### Leading bits -/

/-- Numbers without their lower bits are equal when the bits above are. -/
theorem shiftRight_eq_iff {m n width length : Nat} (hm : m < 2 ^ width) (hn : n < 2 ^ width)
    (hle : length ≤ width) :
    m >>> (width - length) = n >>> (width - length) ↔
      ∀ i < length, m.testBit (width - 1 - i) = n.testBit (width - 1 - i) := by
  constructor
  · intro h i hi
    have hbit := congrArg (fun k => k.testBit (length - 1 - i)) h
    simp only [Nat.testBit_shiftRight] at hbit
    have hindex : width - length + (length - 1 - i) = width - 1 - i := by omega
    rwa [hindex] at hbit
  · intro h
    refine Nat.eq_of_testBit_eq fun j => ?_
    rw [Nat.testBit_shiftRight, Nat.testBit_shiftRight]
    by_cases hj : j < length
    · have hindex : width - 1 - (length - 1 - j) = width - length + j := by omega
      have hbit := h (length - 1 - j) (by omega)
      rwa [hindex] at hbit
    · -- above the width there are no bits
      have hpow : 2 ^ width ≤ 2 ^ (width - length + j) := Nat.pow_le_pow_right (by omega) (by omega)
      rw [Nat.testBit_lt_two_pow (hm.trans_le hpow), Nat.testBit_lt_two_pow (hn.trans_le hpow)]

/-- The bits of an address, the most significant first. -/
def Inet.bit (x : Inet) (i : Nat) : Bool := x.number.testBit (x.version.width - 1 - i)

namespace Network

variable {x : Inet} {n : Nat}

theorem length_of (x : Inet) (n : Nat) : (of x n).length = n := by
  unfold of
  dsimp only
  split <;> rfl

theorem version_of (x : Inet) (n : Nat) : (of x n).address.version = x.version := by
  unfold of
  dsimp only
  split
  · rfl
  · exact Inet.version_ofNumber _ _

/-- Clearing the host bits leaves the bits above them. -/
theorem shiftRight_of (x : Inet) (n : Nat) :
    (of x n).address.number >>> (x.version.width - n) = x.number >>> (x.version.width - n) := by
  unfold of
  dsimp only
  split
  · rfl
  · rw [Inet.number_ofNumber ((Nat.div_mul_le_self _ _).trans_lt x.number_lt), Nat.one_shiftLeft,
      Nat.shiftRight_eq_div_pow, Nat.shiftRight_eq_div_pow,
      Nat.mul_div_cancel _ (Nat.two_pow_pos _)]

/-- The network of an address depends on its version and its number. -/
theorem contains_of (x : Inet) (n : Nat) (y : Inet) :
    (of x n).contains y = (y.version == x.version &&
      y.number >>> (x.version.width - n) == x.number >>> (x.version.width - n)) := by
  rw [contains, hostBits, length_of, version_of, shiftRight_of]

/-- The members of the network of an address are the addresses that share its leading bits. -/
theorem contains_of_iff (hn : n ≤ x.version.width) (y : Inet) :
    (of x n).contains y = true ↔ y.version = x.version ∧ ∀ i < n, y.bit i = x.bit i := by
  rw [contains_of, Bool.and_eq_true, beq_iff_eq, beq_iff_eq]
  refine and_congr_right fun hv => ?_
  have hy : y.number < 2 ^ x.version.width := hv ▸ y.number_lt
  rw [shiftRight_eq_iff hy x.number_lt hn]
  simp only [Inet.bit, hv]

/-! ### Reading -/

/-- An address, a slash and a length are read as the network of that address. -/
theorem read?_append {a length : Text} (hx : Inet.read? a = some x) (hslash : '/' ∉ length)
    (hlength : readLength? x.version.width length = some n) :
    read? (a ++ '/' :: length) = some (of x n) := by
  rw [read?, Text.fields_append (Inet.slash_notMem_of_read? hx), Text.fields_of_notMem hslash]
  cases h4 : Inet.readV4? a with
  | some y =>
    obtain rfl : y = x := by simpa [Inet.read?, h4] using hx
    obtain ⟨m, -, rfl⟩ := Option.map_eq_some_iff.1 h4
    have hlength : readLength? 32 length = some n := hlength
    simp only [h4, hlength]
  | none =>
    have h6 : Inet.readV6? a = some x := by simpa [Inet.read?, h4] using hx
    have hv : x.version = .v6 := by
      rcases Inet.read?_cases hx with ⟨m, hm, -⟩ | ⟨m, -, rfl⟩ | ⟨address, m, zone, -, -, rfl⟩
      · simp [Inet.readV4?, hm] at h4
      · rfl
      · rfl
    have hlength : readLength? 128 length = some n := by
      rw [hv] at hlength
      exact hlength
    simp only [h4, h6, hlength]

end Network

end MemberAddress
