import MemberAddress.Text.Basic

/-!
# Internet addresses

An address is a word of 32 or 128 bits; one of 128 bits may carry a zone, the name or index of
the interface that a local address belongs to.

* `Inet`, `Zone` and `Version` are the types;
* `Inet.number` is the word as a number, `Inet.groups` its parts as the written form shows them:
  four octets or eight groups of 16 bits;
* `Inet.isLoopback`, `Inet.isLinkLocal` and `Inet.isSiteLocal` are the ranges with a meaning here.

The lemmas relate a number to its digits in a base.
-/

namespace MemberAddress

/-! ### Digits in a base -/

/-- The last `count` digits of a number in `base`, the most significant first. -/
def digitsIn (base : Nat) : Nat → Nat → List Nat
  | 0, _ => []
  | count + 1, n => digitsIn base count (n / base) ++ [n % base]

/-- The number with the given digits in `base`, the most significant first. -/
def ofDigitsIn (base : Nat) (digits : List Nat) : Nat :=
  digits.foldl (fun value d => value * base + d) 0

theorem length_digitsIn (base count n : Nat) : (digitsIn base count n).length = count := by
  induction count generalizing n with
  | zero => rfl
  | succ count ih => simp [digitsIn, ih]

theorem lt_of_mem_digitsIn {base : Nat} (h : 0 < base) {count n d : Nat}
    (hd : d ∈ digitsIn base count n) : d < base := by
  induction count generalizing n with
  | zero => simp [digitsIn] at hd
  | succ count ih =>
    simp only [digitsIn, List.mem_append, List.mem_singleton] at hd
    rcases hd with hd | rfl
    · exact ih hd
    · exact Nat.mod_lt _ h

theorem ofDigitsIn_append_singleton (base : Nat) (ds : List Nat) (d : Nat) :
    ofDigitsIn base (ds ++ [d]) = ofDigitsIn base ds * base + d := by
  simp [ofDigitsIn, List.foldl_append]

/-! ### Addresses -/

/-- The two versions of internet addresses. -/
inductive Version
  | v4
  | v6
  deriving DecidableEq, Repr

/-- The number of bits of an address. -/
def Version.width : Version → Nat
  | .v4 => 32
  | .v6 => 128

/-- The number of groups in which an address is written. -/
def Version.groupCount : Version → Nat
  | .v4 => 4
  | .v6 => 8

/-- The number of values of one group. -/
def Version.groupBase : Version → Nat
  | .v4 => 256
  | .v6 => 65536

/-- The zone of an address: a text that is not empty and has neither a percent sign nor a slash. -/
structure Zone where
  text : Text
  ne_nil : text ≠ []
  percent_notMem : '%' ∉ text
  slash_notMem : '/' ∉ text
  deriving DecidableEq, Repr

/-- The zone with the given text, when it is one. -/
def Zone.ofText? (t : Text) : Option Zone :=
  if h : t ≠ [] ∧ '%' ∉ t ∧ '/' ∉ t then some ⟨t, h.1, h.2.1, h.2.2⟩ else none

/-- An internet address. -/
inductive Inet
  | v4 (bits : BitVec 32)
  | v6 (bits : BitVec 128) (zone : Option Zone)
  deriving DecidableEq, Repr

namespace Inet

/-- The version of an address. -/
def version : Inet → Version
  | .v4 _ => .v4
  | .v6 _ _ => .v6

/-- The address as a number. -/
def number : Inet → Nat
  | .v4 bits => bits.toNat
  | .v6 bits _ => bits.toNat

/-- The zone of an address, if it has one. -/
def zone : Inet → Option Zone
  | .v4 _ => none
  | .v6 _ zone => zone

/-- The address without its zone. -/
def bare : Inet → Inet
  | .v4 bits => .v4 bits
  | .v6 bits _ => .v6 bits none

/-- The parts of an address that its written form shows: octets, or groups of 16 bits. -/
def groups (x : Inet) : List Nat := digitsIn x.version.groupBase x.version.groupCount x.number

/-- The address of a version with the given number, reduced to the width. -/
def ofNumber (v : Version) (n : Nat) : Inet :=
  match v with
  | .v4 => .v4 (BitVec.ofNat 32 n)
  | .v6 => .v6 (BitVec.ofNat 128 n) none

/-- The address `127.0.0.1`. -/
def loopback : Inet := .v4 0x7f000001

/-- Whether an address is one of the loopback addresses, `127.0.0.0/8` and `::1`. -/
def isLoopback : Inet → Bool
  | .v4 bits => bits.toNat >>> 24 == 127
  | .v6 bits _ => bits.toNat == 1

/-- Whether an address is link-local, in `fe80::/10`. -/
def isLinkLocal : Inet → Bool
  | .v4 _ => false
  | .v6 bits _ => bits.toNat >>> 118 == 0x3fa

/-- Whether an address is site-local, in `fec0::/10`. -/
def isSiteLocal : Inet → Bool
  | .v4 _ => false
  | .v6 bits _ => bits.toNat >>> 118 == 0x3fb

theorem length_groups (x : Inet) : x.groups.length = x.version.groupCount :=
  length_digitsIn _ _ _

@[simp] theorem version_bare (x : Inet) : x.bare.version = x.version := by cases x <;> rfl

@[simp] theorem number_bare (x : Inet) : x.bare.number = x.number := by cases x <;> rfl

end Inet

end MemberAddress
