import MemberAddress.Inet.Basic
import MemberAddress.Text.Digit

/-!
# Reading addresses

* `Inet.readOctets?` reads the dotted form of four octets;
* `Inet.readGroups?` reads eight groups, of which one run of zero groups may be left out between
  two colons and the last two may be written as four octets;
* `Inet.read?` reads an address of either version, with its zone.
-/

namespace MemberAddress.Inet

/-! ### Four octets -/

/-- An octet: one to three ASCII digits without a needless zero in front, at most 255. -/
def readOctet? (t : Text) : Option Nat :=
  match Text.numeral? 10 Text.asciiDigit? t with
  | none => none
  | some n =>
    if 3 < t.length ∨ (t.head? = some '0' ∧ t ≠ ['0']) ∨ 255 < n then none else some n

/-- The number of a dotted address. -/
def readOctets? (t : Text) : Option Nat :=
  let parts := Text.fields '.' t
  if parts.length = 4 then (parts.mapM readOctet?).map (ofDigitsIn 256) else none

/-! ### Eight groups -/

/-- A group: one to four hexadecimal digits. -/
def readGroup? (t : Text) : Option Nat :=
  if 4 < t.length then none else Text.numeral? 16 Text.hexDigit? t

/-- The parts with a last part in dotted form replaced by the two groups that it stands for. -/
def spreadOctets? (parts : List Text) : Option (List Text) :=
  match parts.getLast? with
  | none => some parts
  | some last =>
    if last.contains '.' then
      (readOctets? last).map fun n =>
        parts.dropLast ++ [Text.hexadecimal (n / 65536), Text.hexadecimal (n % 65536)]
    else some parts

/-- The groups written before a gap. Only a colon that belongs to the gap may open an address, so
an empty first part must be the only one. -/
def beforeGap? (parts : List Text) : Option (List Text) :=
  if parts.head? = some [] then (if parts.length = 1 then some [] else none) else some parts

/-- The groups written after a gap, in the same way. -/
def afterGap? (parts : List Text) : Option (List Text) :=
  if parts.getLast? = some [] then (if parts.length = 1 then some [] else none) else some parts

/-- The parts between colons with the gap, if there is one, filled up by zero groups. -/
def fillGap? (parts : List Text) : Option (List Text) :=
  let interior := parts.tail.dropLast
  match interior.count [] with
  | 0 => if parts.length = 8 then some parts else none
  | 1 =>
    let index := interior.idxOf [] + 1
    match beforeGap? (parts.take index), afterGap? (parts.drop (index + 1)) with
    | some high, some low =>
      if high.length + low.length < 8 then
        some (high ++ List.replicate (8 - (high.length + low.length)) ['0'] ++ low)
      else none
    | _, _ => none
  | _ => none

/-- The number of an address of eight groups. -/
def readGroups? (t : Text) : Option Nat :=
  let parts := Text.fields ':' t
  if parts.length < 3 then none
  else
    match spreadOctets? parts with
    | none => none
    | some parts =>
      if 9 < parts.length then none
      else
        match fillGap? parts with
        | none => none
        | some parts => (parts.mapM readGroup?).map (ofDigitsIn 65536)

/-! ### Addresses -/

/-- An address of four octets. -/
def readV4? (t : Text) : Option Inet :=
  (readOctets? t).map fun n => .v4 (BitVec.ofNat 32 n)

/-- An address of eight groups with an optional zone after a percent sign. -/
def readV6? (t : Text) : Option Inet :=
  if '/' ∈ t then none
  else
    match Text.cut '%' t with
    | (address, none) => (readGroups? address).map fun n => .v6 (BitVec.ofNat 128 n) none
    | (address, some zone) =>
      match Zone.ofText? zone, readGroups? address with
      | some zone, some n => some (.v6 (BitVec.ofNat 128 n) (some zone))
      | _, _ => none

/-- An address of either version. -/
def read? (t : Text) : Option Inet :=
  match readV4? t with
  | some x => some x
  | none => readV6? t

end MemberAddress.Inet
