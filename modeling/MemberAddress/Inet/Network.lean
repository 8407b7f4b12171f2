import MemberAddress.Inet.Reader
import MemberAddress.Inet.Printer

/-!
# Networks

A network is an address without host bits and the number of leading bits that its members share
with it.

* `Network.read?` reads `address/length`; the length of a network of four octets may also be given
  by a mask;
* `Network.contains` is membership; zones do not matter.
-/

namespace MemberAddress

/-- A network: the addresses that share the first `length` bits with `address`. -/
structure Network where
  address : Inet
  length : Nat
  deriving DecidableEq, Repr

namespace Network

/-- The number of bits of a network's members that are free. -/
def hostBits (net : Network) : Nat := net.address.version.width - net.length

/-- Whether an address belongs to a network: it has the network's version and its leading bits. -/
def contains (net : Network) (x : Inet) : Bool :=
  x.version == net.address.version &&
    x.number >>> net.hostBits == net.address.number >>> net.hostBits

/-- The written form of a network. -/
def text (net : Network) : Text := net.address.text ++ '/' :: Text.decimal net.length

/-- The network of an address and a length. The host bits of the address are cleared; an address
that has none keeps its zone. -/
def of (x : Inet) (length : Nat) : Network :=
  let size : Nat := 1 <<< (x.version.width - length)
  if x.number % size = 0 then ⟨x, length⟩
  else ⟨Inet.ofNumber x.version (x.number / size * size), length⟩

/-! ### Reading -/

/-- A length in ASCII digits, at most `limit`. -/
def readLength? (limit : Nat) (t : Text) : Option Nat :=
  if Text.numeralLimit < t.length then none
  else (Text.numeral? 10 Text.asciiDigit? t).filter (· ≤ limit)

/-- The length of a mask: `mask` is made of that many ones followed by zeros. -/
def maskLength? (mask : Nat) : Option Nat :=
  (List.range 33).find? fun length => mask == (1 <<< length - 1) <<< (32 - length)

/-- A length given by a mask of four octets, or by the complement of one. -/
def readMask? (t : Text) : Option Nat :=
  match Inet.readOctets? t with
  | none => none
  | some mask =>
    match maskLength? mask with
    | some length => some length
    | none => maskLength? (0xffffffff - mask)

/-- A network in text. -/
def read? (t : Text) : Option Network :=
  match Text.fields '/' t with
  | [address, length] =>
    match Inet.readV4? address with
    | some x =>
      match readLength? 32 length with
      | some n => some (of x n)
      | none => (readMask? length).map (of x)
    | none =>
      match Inet.readV6? address, readLength? 128 length with
      | some x, some n => some (of x n)
      | _, _ => none
  | _ => none

end Network

end MemberAddress
