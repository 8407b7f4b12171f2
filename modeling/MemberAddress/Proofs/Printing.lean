import MemberAddress.Inet.Printer
import MemberAddress.Proofs.Gaps

/-!
# Written addresses

An address that is written and read again is the same address, whichever zeros are left out when it
is written (`Inet.read?_text`). So a pattern selects the text of an address just when it selects the
address, and the text of an address, however it is spelled, selects itself
(`Pattern.selectsText_text`).

* `Inet.readGroups?_gapText` reads groups with a gap;
* `Inet.exists_longestZeroRun` says that what the written form leaves out are zeros;
* `Inet.readGroups?_compressedGroups` puts both together.
-/

namespace MemberAddress

theorem Zone.ofText?_text (zone : Zone) : ofText? zone.text = some zone := by
  rw [ofText?, dif_pos ⟨zone.ne_nil, zone.percent_notMem, zone.slash_notMem⟩]

namespace Inet

/-! ### Octets -/

theorem readOctet?_decimal {n : Nat} (h : n < 256) : readOctet? (Text.decimal n) = some n := by
  have hall : ∀ n < 256, readOctet? (Text.decimal n) = some n := by decide +kernel
  exact hall n h

/-- An octet has no text but the one that is printed. -/
theorem decimal_of_readOctet? {t : Text} {n : Nat} (h : readOctet? t = some n) :
    t = Text.decimal n := by
  refine Text.eq_toDigits_of_numeral? (by decide) (fun _ _ => Text.eq_digitChar_of_asciiDigit?)
    (numeral?_of_readOctet? h).1 fun hzero => ?_
  by_contra hne
  unfold readOctet? at h
  split at h
  · cases h
  · rw [if_pos (.inr (.inl ⟨hzero, hne⟩))] at h
    cases h

/-- Four octets with points between them are read as their number. -/
theorem readOctets?_intercalate {gs : List Nat} (hlen : gs.length = 4) (h : ∀ g ∈ gs, g < 256) :
    readOctets? (List.intercalate ['.'] (gs.map Text.decimal)) = some (ofDigitsIn 256 gs) := by
  have hne : gs.map Text.decimal ≠ [] := by
    rw [← List.length_pos_iff, List.length_map]
    omega
  have hread : ∀ g ∈ gs, readOctet? (Text.decimal g) = some g := fun g hg =>
    readOctet?_decimal (h g hg)
  have hfields : Text.fields '.' (List.intercalate ['.'] (gs.map Text.decimal)) =
      gs.map Text.decimal := by
    refine Text.fields_intercalate hne fun p hp hm => ?_
    obtain ⟨g, hg, rfl⟩ := List.mem_map.1 hp
    have hdigit := Text.isSome_of_numeral? (numeral?_of_readOctet? (hread g hg)).1 '.' hm
    exact absurd hdigit (by decide)
  refine readOctets?_eq_some_iff.2 ⟨by rw [hfields, List.length_map, hlen], gs, ?_, rfl⟩
  rw [hfields, mapM_eq_some_iff, List.forall₂_map_left_iff]
  exact List.forall₂_same.2 hread

/-! ### Groups -/

section Groups

variable {gs : List Nat} {parts : List Text}

theorem readGroup?_hexadecimal {g : Nat} (h : g < 65536) :
    readGroup? (Text.hexadecimal g) = some g := by
  let n : Numeral .v6 := .ofNat g (Nat.le_of_lt_succ h)
  have hlen : (Text.hexadecimal g).length ≤ 4 := n.length_le
  rw [readGroup?, if_neg (Nat.not_lt.2 hlen)]
  exact n.reads

theorem mapM_readGroup?_hexadecimal (h : ∀ g ∈ gs, g < 65536) :
    (gs.map Text.hexadecimal).mapM readGroup? = some gs := by
  rw [mapM_eq_some_iff, List.forall₂_map_left_iff]
  exact List.forall₂_same.2 fun g hg => readGroup?_hexadecimal (h g hg)

/-- A group has no point. -/
theorem point_notMem_of_mapM (h : parts.mapM readGroup? = some gs) : ∀ p ∈ parts, '.' ∉ p := by
  intro p hp hm
  obtain ⟨g, hg⟩ := exists_of_mapM_eq_some h hp
  exact absurd (Text.isSome_of_numeral? (numeral?_of_readGroup? hg).1 '.' hm) (by decide)

/-- Parts without points are not spread out. -/
theorem spreadOctets?_of_point_notMem (h : ∀ p ∈ parts, '.' ∉ p) :
    spreadOctets? parts = some parts := by
  unfold spreadOctets?
  split
  · rfl
  · next last hlast => rw [if_neg (by simpa using h last (List.mem_of_getLast? hlast))]

/-- Eight groups with colons between them are read as their number. -/
theorem readGroups?_intercalate (hlen : parts.length = 8) (h : parts.mapM readGroup? = some gs) :
    readGroups? (List.intercalate [':'] parts) = some (ofDigitsIn 65536 gs) := by
  have hparts := areParts_of_mapM h
  have hne : parts ≠ [] := by
    rw [← List.length_pos_iff]
    omega
  have hfill : fillGap? parts = some parts := by
    have hcount : parts.tail.dropLast.count [] = 0 := by
      rw [List.count_eq_zero]
      exact fun hm => (hparts [] (List.mem_of_mem_tail (List.mem_of_mem_dropLast hm))).1 rfl
    simp only [fillGap?, hcount, hlen, if_pos]
  rw [readGroups?_eq_some_iff, Pattern.fields_intercalate_of_areParts hne hparts]
  exact ⟨by omega, _, spreadOctets?_of_point_notMem (point_notMem_of_mapM h), by omega, _, hfill,
    gs, h, rfl⟩

/-! ### Groups around a gap -/

/-- The parts between colons on one side of a gap. Nothing written there is one empty part. -/
def gapSide (parts : List Text) : List Text := if parts = [] then [[]] else parts

theorem gapSide_ne_nil (parts : List Text) : gapSide parts ≠ [] := by
  unfold gapSide
  split
  · simp
  · assumption

theorem intercalate_gapSide (parts : List Text) :
    List.intercalate [':'] (gapSide parts) = List.intercalate [':'] parts := by
  unfold gapSide
  split
  · next h => rw [h]; rfl
  · rfl

theorem colon_notMem_gapSide (h : Pattern.AreParts parts) : ∀ p ∈ gapSide parts, ':' ∉ p := by
  unfold gapSide
  split
  · simp
  · exact fun p hp => (h p hp).2

theorem length_gapSide_le (parts : List Text) :
    1 ≤ (gapSide parts).length ∧ (gapSide parts).length ≤ max 1 parts.length := by
  unfold gapSide
  split
  · simp
  · next h =>
    have := List.length_pos_iff.2 h
    omega

/-- The only empty part of a side is its first one, and its last one. -/
theorem nil_notMem_gapSide (h : Pattern.AreParts parts) :
    [] ∉ (gapSide parts).tail ∧ [] ∉ (gapSide parts).dropLast := by
  unfold gapSide
  split
  · simp
  · exact ⟨fun hm => (h [] (List.mem_of_mem_tail hm)).1 rfl,
      fun hm => (h [] (List.mem_of_mem_dropLast hm)).1 rfl⟩

theorem beforeGap?_gapSide (h : Pattern.AreParts parts) :
    beforeGap? (gapSide parts) = some parts := by
  unfold gapSide
  split
  · next he => rw [he]; rfl
  · exact if_neg fun hm => (h [] (List.mem_of_mem_head? hm)).1 rfl

theorem afterGap?_gapSide (h : Pattern.AreParts parts) :
    afterGap? (gapSide parts) = some parts := by
  unfold gapSide
  split
  · next he => rw [he]; rfl
  · exact if_neg fun hm => (h [] (List.mem_of_getLast? hm)).1 rfl

/-- A text with a gap has an empty part between its two sides. -/
theorem fields_gapText {front back : List Text} (hf : Pattern.AreParts front)
    (hb : Pattern.AreParts back) :
    Text.fields ':' (Pattern.gapText front back) = gapSide front ++ [] :: gapSide back := by
  have htext : Pattern.gapText front back =
      List.intercalate [':'] (gapSide front ++ [] :: gapSide back) := by
    rw [Text.intercalate_append (gapSide_ne_nil front) (by simp),
      List.intercalate_cons_of_ne_nil (gapSide_ne_nil back), intercalate_gapSide,
      intercalate_gapSide, Pattern.gapText]
    rfl
  rw [htext]
  refine Text.fields_intercalate (by simp) fun p hp => ?_
  rcases List.mem_append.1 hp with hp | hp
  · exact colon_notMem_gapSide hf p hp
  · rcases List.mem_cons.1 hp with rfl | hp
    · simp
    · exact colon_notMem_gapSide hb p hp

theorem point_notMem_gapSide (h : parts.mapM readGroup? = some gs) :
    ∀ p ∈ gapSide parts, '.' ∉ p := by
  unfold gapSide
  split
  · simp
  · exact point_notMem_of_mapM h

/-- Groups with a gap are read as their number, with zeros in the gap. -/
theorem readGroups?_gapText {front back : List Text} {high low : List Nat}
    (hlen : high.length + low.length < 8) (hf : front.mapM readGroup? = some high)
    (hb : back.mapM readGroup? = some low) :
    readGroups? (Pattern.gapText front back) = some (ofDigitsIn 65536
      (high ++ List.replicate (8 - (high.length + low.length)) 0 ++ low)) := by
  have hfront := areParts_of_mapM hf
  have hback := areParts_of_mapM hb
  have hfrontLength := (mapM_eq_some_iff.1 hf).length_eq
  have hbackLength := (mapM_eq_some_iff.1 hb).length_eq
  have hpoint : ∀ p ∈ gapSide front ++ [] :: gapSide back, '.' ∉ p := by
    simpa [or_imp, forall_and] using ⟨point_notMem_gapSide hf, point_notMem_gapSide hb⟩
  have hfill : fillGap? (gapSide front ++ [] :: gapSide back) =
      some (front ++ List.replicate (8 - (high.length + low.length)) ['0'] ++ back) := by
    rw [fillGap?_append (gapSide_ne_nil _) (gapSide_ne_nil _) (nil_notMem_gapSide hfront).1
      (nil_notMem_gapSide hback).2, beforeGap?_gapSide hfront, afterGap?_gapSide hback]
    simp only [hfrontLength, hbackLength, if_pos hlen]
  have hgroups : (front ++ List.replicate (8 - (high.length + low.length)) ['0'] ++ back).mapM
      readGroup? = some (high ++ List.replicate (8 - (high.length + low.length)) 0 ++ low) := by
    have hzeros : ∀ n, List.Forall₂ (fun p g => readGroup? p = some g)
        (List.replicate n ['0']) (List.replicate n 0) := by
      intro n
      induction n with
      | zero => exact .nil
      | succ n ih => exact .cons (by decide) ih
    rw [mapM_eq_some_iff]
    exact List.rel_append (List.rel_append (mapM_eq_some_iff.1 hf) (hzeros _))
      (mapM_eq_some_iff.1 hb)
  have hlength := length_gapSide_le front
  have hlength' := length_gapSide_le back
  rw [readGroups?_eq_some_iff, fields_gapText hfront hback]
  refine ⟨?_, _, spreadOctets?_of_point_notMem hpoint, ?_, _, hfill, _, hgroups, rfl⟩
  · rw [List.length_append, List.length_cons]
    omega
  · rw [List.length_append, List.length_cons]
    omega

/-! ### The longest run of zeros -/

theorem eq_replicate_append_of_leadingZeros (gs : List Nat) :
    ∃ rest, gs = List.replicate (leadingZeros gs) 0 ++ rest := by
  refine ⟨gs.dropWhile (· == 0), ?_⟩
  have hzeros : gs.takeWhile (· == 0) = List.replicate (leadingZeros gs) 0 :=
    List.eq_replicate_of_mem fun g hg => by simpa using List.mem_takeWhile_imp hg
  rw [← hzeros, List.takeWhile_append_dropWhile]

/-- The longest run of zeros is one: the groups are what stands before it, zeros, and the rest. -/
theorem exists_longestZeroRun (gs : List Nat) :
    ∃ low, gs.drop (longestZeroRun gs).1 = List.replicate (longestZeroRun gs).2 0 ++ low := by
  -- every run that the search keeps starts with as many zeros as it counts
  refine List.foldlRecOn (List.range gs.length) _
    (motive := fun run : Nat × Nat => ∃ low, gs.drop run.1 = List.replicate run.2 0 ++ low)
    ⟨gs, rfl⟩ fun best hbest i _ => ?_
  split
  · exact eq_replicate_append_of_leadingZeros (gs.drop i)
  · exact hbest

/-- Eight groups, written with the longest run of zeros left out, are read as their number. -/
theorem readGroups?_compressedGroups (hlen : gs.length = 8) (h : ∀ g ∈ gs, g < 65536) :
    readGroups? (compressedGroups gs) = some (ofDigitsIn 65536 gs) := by
  obtain ⟨low, hlow⟩ := exists_longestZeroRun gs
  rcases hrun : longestZeroRun gs with ⟨i, n⟩
  rw [hrun] at hlow
  simp only [compressedGroups, hrun]
  split
  · exact readGroups?_intercalate (by rw [List.length_map, hlen]) (mapM_readGroup?_hexadecimal h)
  · next hn =>
    have hgs : gs = gs.take i ++ List.replicate n 0 ++ low := by
      rw [List.append_assoc, ← hlow, List.take_append_drop]
    have hrest : gs.drop (i + n) = low := by
      rw [← List.drop_drop, hlow]
      simp
    have hcount : (gs.take i).length + n + low.length = 8 := by
      have := congrArg List.length hgs
      simp only [List.length_append, List.length_replicate] at this
      omega
    have hfew : (gs.take i).length + low.length < 8 := by omega
    have hgap := readGroups?_gapText hfew
      (mapM_readGroup?_hexadecimal fun g hg => h g (List.mem_of_mem_take hg))
      (mapM_readGroup?_hexadecimal fun g hg => h g (List.mem_of_mem_drop (hrest ▸ hg)))
    have hmissing : 8 - ((gs.take i).length + low.length) = n := by omega
    rw [hmissing, ← hgs] at hgap
    rw [hrest, ← hgap, Pattern.gapText, colonGroups, colonGroups]
    simp

end Groups

/-! ### Addresses -/

/-- Eight groups and a zone after a percent sign are read as an address with this zone. -/
theorem read?_append_zone {t : Text} {n : Nat} (h : readGroups? t = some n) (zone : Zone) :
    read? (t ++ '%' :: zone.text) = some (.v6 (BitVec.ofNat 128 n) (some zone)) := by
  have h4 : readV4? (t ++ '%' :: zone.text) = none := by
    rw [readV4?, Option.map_eq_none_iff]
    by_contra ho
    obtain ⟨m, hm⟩ := Option.ne_none_iff_exists'.1 ho
    exact absurd (isLiteralChar_of_readOctets? hm '%' (by simp)) (by decide)
  have hslash : '/' ∉ t ++ '%' :: zone.text := by
    simp [slash_notMem_of_readGroups? h, zone.slash_notMem]
  rw [read?, h4, readV6?, if_neg hslash, Text.cut_append (percent_notMem_of_readGroups? h)]
  simp only [Zone.ofText?_text, h]

theorem lt_of_mem_groups {x : Inet} {g : Nat} (hg : g ∈ x.groups) : g < x.version.groupBase :=
  lt_of_mem_digitsIn (by cases x.version <;> decide) hg

/-- An address that is written and read again is the same address, with the same zone. -/
theorem read?_text (x : Inet) : read? x.text = some x := by
  cases x with
  | v4 bits =>
    have hoctets := readOctets?_intercalate (length_groups (.v4 bits))
      fun g hg => lt_of_mem_groups hg
    have hnumber : ofDigitsIn 256 (groups (.v4 bits)) = bits.toNat :=
      ofDigitsIn_groups (.v4 bits)
    rw [hnumber] at hoctets
    show read? (List.intercalate ['.'] ((groups (.v4 bits)).map Text.decimal)) = _
    rw [read?, readV4?, hoctets]
    simp
  | v6 bits zone =>
    have hgroups := readGroups?_compressedGroups (length_groups (.v6 bits zone))
      fun g hg => lt_of_mem_groups hg
    have hnumber : ofDigitsIn 65536 (groups (.v6 bits zone)) = bits.toNat :=
      ofDigitsIn_groups (.v6 bits zone)
    rw [hnumber] at hgroups
    cases zone with
    | none =>
      show read? (compressedGroups (groups (.v6 bits none))) = _
      rw [read?_of_readGroups? hgroups]
      simp
    | some zone =>
      show read? (compressedGroups (groups (.v6 bits (some zone))) ++ '%' :: zone.text) = _
      rw [read?_append_zone hgroups]
      simp

end Inet

namespace Pattern

/-- A pattern selects the text of an address just when it selects the address, with or without a
zone. And the text of an address, in whatever spelling, selects itself. -/
theorem selectsText_text :
    (∀ (x : Inet) (p : Text), selectsText p x.text = selects p x) ∧
      ∀ t : Text, (Inet.read? t).isSome = true → selectsText t t = true := by
  refine ⟨fun x p => selectsText_of_read? x.read?_text, fun t ht => ?_⟩
  obtain ⟨x, hx⟩ := Option.isSome_iff_exists.1 ht
  rw [selectsText_of_read? hx, selects_of_read? hx]

/-- An address with zeros that are not needed, capital digits, octets and a zone selects itself. -/
theorem selectsText_text_spelled :
    selectsText "FE80:0:0::00AB:1.2.3.4%eth0".toList "FE80:0:0::00AB:1.2.3.4%eth0".toList = true :=
  selectsText_text.2 _ (by decide +kernel)

end Pattern

end MemberAddress
