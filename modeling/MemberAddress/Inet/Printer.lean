import MemberAddress.Inet.Basic

/-!
# Writing addresses

The written form is canonical: octets in decimal digits, groups in lower-case hexadecimal digits
without zeros in front, and the longest run of at least two zero groups, the first of several,
left out between two colons.

* `Inet.hostText` is the form without the zone, `Inet.text` the form with it.
-/

namespace MemberAddress.Inet

/-- The number of zeros at the start of a list. -/
def leadingZeros (gs : List Nat) : Nat := (gs.takeWhile (· == 0)).length

/-- The start and the length of the longest run of zeros, the first of several. -/
def longestZeroRun (gs : List Nat) : Nat × Nat :=
  (List.range gs.length).foldl
    (fun best i => if best.2 < leadingZeros (gs.drop i) then (i, leadingZeros (gs.drop i)) else best)
    (0, 0)

/-- Groups in hexadecimal digits, parted by colons. -/
def colonGroups (gs : List Nat) : Text := List.intercalate [':'] (gs.map Text.hexadecimal)

/-- Eight groups with the longest run of zeros left out. -/
def compressedGroups (gs : List Nat) : Text :=
  let run := longestZeroRun gs
  if run.2 ≤ 1 then colonGroups gs
  else colonGroups (gs.take run.1) ++ [':', ':'] ++ colonGroups (gs.drop (run.1 + run.2))

/-- An address in text, without its zone. -/
def hostText (x : Inet) : Text :=
  match x with
  | .v4 _ => List.intercalate ['.'] (x.groups.map Text.decimal)
  | .v6 _ _ => compressedGroups x.groups

/-- An address in text, with its zone after a percent sign. -/
def text (x : Inet) : Text :=
  match x.zone with
  | none => x.hostText
  | some zone => x.hostText ++ '%' :: zone.text

end MemberAddress.Inet
