import MemberAddress.Proofs.Gaps

/-!
# Hyphens in segment patterns

A hyphen in a segment pattern never stands between two addresses: four octets have three points,
so two of them have six, and eight groups have seven colons unless they have a gap.
`Pattern.readEnds?_eq_none_of_octets` and `Pattern.readEnds?_eq_none_of_groups` say so, and
`Pattern.read_of_readSegmentPattern` concludes that a segment pattern is read as such, or as the
one address that it is.
-/

namespace MemberAddress.Pattern

variable {t a b : Text} {x y : Inet} {n : Nat}

/-- The addresses on both sides of a hyphen, in a text without blanks and zones. -/
theorem exists_ends_of_readEnds? (hblank : ∀ c ∈ t, Text.isBlank c = false) (hp : '%' ∉ t)
    (h : readEnds? t = some (x, y)) :
    ∃ a b, t = a ++ '-' :: b ∧ Inet.read? a = some x ∧ Inet.read? b = some y := by
  unfold readEnds? at h
  split at h
  · next a b hfields =>
    split at h
    · next hx hy =>
      cases h
      have ht : t = a ++ '-' :: b := by
        rw [← Text.intercalate_fields '-' t, hfields, List.intercalate_cons_cons]
        simp
      have hplain : ∀ {u : Text}, u ⊆ t → readLiteral? (Text.trim u) = Inet.read? u := by
        intro u hu
        rw [Text.trim_eq_self fun c hc => hblank c (hu hc), readLiteral?,
          Text.before_of_notMem fun hm => hp (hu hm)]
      rw [hplain (by simp [ht])] at hx
      rw [hplain (by simp [ht])] at hy
      exact ⟨a, b, ht, hx, hy⟩
    · cases h
  · cases h

/-! ### Octets -/

theorem count_of_readOctets? (h : Inet.readOctets? a = some n) : a.count '.' = 3 := by
  have hlen := (Inet.readOctets?_eq_some_iff.1 h).1
  rw [Text.length_fields] at hlen
  omega

/-- Three points are too few for two addresses. -/
theorem readEnds?_eq_none_of_octets (hblank : ∀ c ∈ t, Text.isBlank c = false) (hp : '%' ∉ t)
    (hcolon : ':' ∉ t) (hcount : t.count '.' = 3) : readEnds? t = none := by
  by_contra h
  obtain ⟨⟨x, y⟩, h⟩ := Option.ne_none_iff_exists'.1 h
  obtain ⟨a, b, rfl, ha, hb⟩ := exists_ends_of_readEnds? hblank hp h
  have hoctets : ∀ {u : Text} {z : Inet}, ':' ∉ u → Inet.read? u = some z → u.count '.' = 3 := by
    intro u z hu hz
    rcases Inet.read?_cases hz with ⟨n, hn, -⟩ | ⟨n, hn, -⟩ | ⟨address, n, zone, rfl, hn, -⟩
    · exact count_of_readOctets? hn
    · exact absurd (Inet.colon_mem_of_readGroups? hn) hu
    · exact absurd (List.mem_append_left _ (Inet.colon_mem_of_readGroups? hn)) hu
  have ha := hoctets (fun hm => hcolon (by simp [hm])) ha
  have hb := hoctets (fun hm => hcolon (by simp [hm])) hb
  rw [List.count_append, List.count_cons_of_ne (by decide)] at hcount
  omega

/-! ### Groups -/

/-- A gap stays where it is when the text goes on. -/
theorem cutGap_append_of_eq_some {l r : Text} (h : cutGap a = some (l, r)) (t : Text) :
    cutGap (a ++ t) = some (l, r ++ t) := by
  induction a using cutGap.induct generalizing l r with
  | case1 rest =>
    cases h
    rfl
  | case2 c rest hne ih =>
    rw [cutGap.eq_2 c rest hne] at h
    obtain ⟨⟨l', r'⟩, hr, he⟩ := Option.map_eq_some_iff.1 h
    cases he
    have hne' : ∀ u, c = ':' → rest ++ t = ':' :: u → False := by
      intro u hc hu
      cases rest with
      | nil => cases hr
      | cons d rest => exact hne rest hc (by rw [(List.cons.inj hu).1])
    rw [List.cons_append, cutGap.eq_2 c (rest ++ t) hne', ih hr]
    rfl
  | case3 => cases h

/-- Text in front takes no gap away. -/
theorem isSome_cutGap_append (h : (cutGap b).isSome = true) (a : Text) :
    (cutGap (a ++ b)).isSome = true := by
  induction a with
  | nil => exact h
  | cons c a ih =>
    rw [List.cons_append]
    unfold cutGap
    split
    · rfl
    · next he =>
      cases he
      rw [Option.isSome_map]
      exact ih
    · next he => cases he

/-- An address of groups without points has seven colons, or a gap. -/
theorem colons_of_readGroups? (h : Inet.readGroups? a = some n) (hdot : '.' ∉ a) :
    2 ≤ a.count ':' ∧ ((cutGap a).isSome = true ∨ a.count ':' = 7) := by
  have hthree := (Inet.readGroups?_eq_some_iff.1 h).1
  rw [Text.length_fields] at hthree
  refine ⟨by omega, ?_⟩
  obtain ⟨parts, gs, hlen, hgs, -, htext⟩ := Inet.exists_parts_of_readGroups? h hdot
  have hparts := Inet.areParts_of_mapM hgs
  rcases htext with rfl | ⟨high, low, rfl, -, rfl⟩
  · have hne : parts ≠ [] := by
      rintro rfl
      simp at hlen
    have hfields := Text.length_fields ':' (List.intercalate [':'] parts)
    rw [fields_intercalate_of_areParts hne hparts, hlen] at hfields
    exact .inr (by omega)
  · have hhigh : AreParts high := fun p hp => hparts p (by simp [hp])
    exact .inl (by simp [cutGap_gapText hhigh])

/-- Eight colons with one gap are too few for two addresses. -/
theorem readEnds?_eq_none_of_groups (hblank : ∀ c ∈ t, Text.isBlank c = false) (hp : '%' ∉ t)
    (hdot : '.' ∉ t) (hcount : t.count ':' ≤ 8)
    (hgap : ∀ l r, cutGap t = some (l, r) → cutGap r = none) : readEnds? t = none := by
  by_contra h
  obtain ⟨⟨x, y⟩, h⟩ := Option.ne_none_iff_exists'.1 h
  obtain ⟨a, b, rfl, ha, hb⟩ := exists_ends_of_readEnds? hblank hp h
  have hcolons : ∀ {u : Text} {z : Inet}, '.' ∉ u → '%' ∉ u → Inet.read? u = some z →
      2 ≤ u.count ':' ∧ ((cutGap u).isSome = true ∨ u.count ':' = 7) := by
    intro u z hdot hp hz
    rcases Inet.read?_cases hz with ⟨n, hn, -⟩ | ⟨n, hn, -⟩ | ⟨address, n, zone, rfl, -, -⟩
    · have hthree := count_of_readOctets? hn
      rw [List.count_eq_zero.2 hdot] at hthree
      omega
    · exact colons_of_readGroups? hn hdot
    · simp at hp
  obtain ⟨ha2, ha⟩ := hcolons (fun hm => hdot (by simp [hm])) (fun hm => hp (by simp [hm])) ha
  obtain ⟨hb2, hb⟩ := hcolons (fun hm => hdot (by simp [hm])) (fun hm => hp (by simp [hm])) hb
  rw [List.count_append, List.count_cons_of_ne (by decide)] at hcount
  rcases ha with ha | ha
  · obtain ⟨⟨l, r⟩, hcut⟩ := Option.isSome_iff_exists.1 ha
    -- the gap before the hyphen is the first one, so there is none after it
    have hnone := hgap l (r ++ '-' :: b) (cutGap_append_of_eq_some hcut _)
    have hb' : ¬ (cutGap b).isSome = true := fun hs => by
      have := isSome_cutGap_append hs (r ++ ['-'])
      simp [hnone] at this
    have hb := hb.resolve_left hb'
    omega
  · omega

/-! ### Segment patterns -/

/-- A text that reads as a segment pattern and has no hyphen between two addresses is that
pattern. -/
theorem read_of_readSegmentPattern {p : Pattern} (hne : t ≠ [])
    (hblank : ∀ c ∈ t, Text.isBlank c = false) (hslash : '/' ∉ t) (hp : '%' ∉ t)
    (hdot : ':' ∈ t → '.' ∉ t) (hends : readEnds? t = none)
    (hseg : readSegmentPattern t = .ok p) :
    ∃ q, read t = .ok q ∧ ∀ x, q.covers x = p.covers x := by
  have hread : read t = readTrimmed t := by
    rw [read, Text.trim_eq_self hblank, if_neg hne]
  have hliteral : readLiteral? t = Inet.read? t := by
    rw [readLiteral?, Text.before_of_notMem hp]
  rw [hread, readTrimmed, if_neg hslash, hliteral]
  cases hx : Inet.read? t with
  | none =>
    simp only [hends, Text.before_of_notMem hp, hseg]
    exact ⟨p, rfl, fun x => rfl⟩
  | some x =>
    obtain ⟨p', hseg', hcovers⟩ := readSegmentPattern_of_read? hx hp hdot
    obtain rfl : p' = p := Except.ok.inj (hseg'.symm.trans hseg)
    exact ⟨single x, rfl, fun y => (hcovers y).symm⟩

end MemberAddress.Pattern
