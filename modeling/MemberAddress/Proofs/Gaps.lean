import MemberAddress.Proofs.Segments

/-!
# Texts of groups

Groups are written with colons between them; two colons may stand for groups that are left out.

* `Pattern.gapText` is the text with such a gap, `Pattern.groupParts_intercalate` and
  `Pattern.groupParts_gapText` take texts of groups apart again;
* `Inet.exists_parts_of_readGroups?` says that every address without points is written in one of
  the two ways;
* `Pattern.readSegmentPattern_of_read?` follows: an address, read as segments, is itself.
-/

namespace MemberAddress

namespace Pattern

/-! ### The gap -/

/-- Parts that may stand between colons: none is empty or has a colon. -/
def AreParts (parts : List Text) : Prop := ∀ p ∈ parts, p ≠ [] ∧ ':' ∉ p

/-- The text of groups before and after a gap. -/
def gapText (high low : List Text) : Text :=
  List.intercalate [':'] high ++ ':' :: ':' :: List.intercalate [':'] low

theorem cutGap_append_of_notMem {p : Text} (hp : ':' ∉ p) (t : Text) :
    cutGap (p ++ t) = (cutGap t).map fun ends => (p ++ ends.1, ends.2) := by
  induction p with
  | nil => simp
  | cons c p ih =>
    have hc : c ≠ ':' := fun e => hp (by simp [e])
    have hp : ':' ∉ p := fun hm => hp (List.mem_cons_of_mem _ hm)
    have hcut : cutGap (c :: (p ++ t)) = (cutGap (p ++ t)).map fun ends =>
        (c :: ends.1, ends.2) := by
      rw [cutGap]
      intro rest he
      exact absurd he hc
    rw [List.cons_append, hcut, ih hp, Option.map_map]
    rfl

theorem cutGap_colon_cons {c : Char} (hc : c ≠ ':') (t : Text) :
    cutGap (':' :: c :: t) = (cutGap (c :: t)).map fun ends => (':' :: ends.1, ends.2) := by
  rw [cutGap]
  intro rest _ he
  exact absurd (List.cons.inj he).1 hc

/-- There is no gap between parts. -/
theorem cutGap_intercalate_append {parts : List Text} (h : AreParts parts) (t : Text) :
    cutGap (List.intercalate [':'] parts ++ t) =
      (cutGap t).map fun ends => (List.intercalate [':'] parts ++ ends.1, ends.2) := by
  induction parts with
  | nil => simp
  | cons p rest ih =>
    have hp := (h p List.mem_cons_self).2
    have hrest : AreParts rest := fun q hq => h q (List.mem_cons_of_mem _ hq)
    cases rest with
    | nil => simpa using cutGap_append_of_notMem hp t
    | cons q rest =>
      -- the part after the colon begins with another character, so these two are no gap
      obtain ⟨hne, hq⟩ := hrest q List.mem_cons_self
      obtain ⟨c, q, rfl⟩ := List.exists_cons_of_ne_nil hne
      have hc : c ≠ ':' := fun e => hq (by simp [e])
      have ih := ih hrest
      obtain ⟨u, hu⟩ : ∃ u, List.intercalate [':'] ((c :: q) :: rest) = c :: u := by
        cases rest <;> simp [List.intercalate_cons_cons]
      rw [hu] at ih
      rw [List.intercalate_cons_cons, hu, List.append_assoc, List.append_assoc,
        cutGap_append_of_notMem hp, List.singleton_append, List.cons_append, cutGap_colon_cons hc,
        ← List.cons_append, ih]
      cases cutGap t <;> simp

theorem cutGap_intercalate {parts : List Text} (h : AreParts parts) :
    cutGap (List.intercalate [':'] parts) = none := by
  simpa [cutGap] using cutGap_intercalate_append h []

theorem cutGap_gapText {high : List Text} (h : AreParts high) (low : List Text) :
    cutGap (gapText high low) =
      some (List.intercalate [':'] high, List.intercalate [':'] low) := by
  rw [gapText, cutGap_intercalate_append h]
  simp [cutGap]

/-! ### The parts of a text of groups -/

theorem fields_intercalate_of_areParts {parts : List Text} (hne : parts ≠ [])
    (h : AreParts parts) : Text.fields ':' (List.intercalate [':'] parts) = parts :=
  Text.fields_intercalate hne fun p hp => (h p hp).2

theorem colonParts_intercalate {parts : List Text} (h : AreParts parts) :
    colonParts (List.intercalate [':'] parts) = parts := by
  by_cases hne : parts = []
  · subst hne
    rfl
  · have htext : List.intercalate [':'] parts ≠ [] := by
      intro he
      have hf := fields_intercalate_of_areParts hne h
      rw [he] at hf
      exact (h [] (by simp [← hf, Text.fields, Text.pieces])).1 rfl
    rw [colonParts, if_neg htext, fields_intercalate_of_areParts hne h]

/-- Eight parts with colons between them are these parts. -/
theorem groupParts_intercalate {parts : List Text} (h : AreParts parts) (hlen : parts.length = 8) :
    groupParts (List.intercalate [':'] parts) = .ok parts := by
  have hne : parts ≠ [] := by
    rintro rfl
    simp at hlen
  rw [groupParts, cutGap_intercalate h]
  simp [fields_intercalate_of_areParts hne h, hlen]

/-- A gap stands for as many zeros as are missing. -/
theorem groupParts_gapText {high low : List Text} (hh : AreParts high) (hl : AreParts low)
    (hlen : high.length + low.length < 8) :
    groupParts (gapText high low) =
      .ok (high ++ List.replicate (8 - (high.length + low.length)) ['0'] ++ low) := by
  rw [groupParts, cutGap_gapText hh]
  simp only [colonParts_intercalate hh, colonParts_intercalate hl, cutGap_intercalate hl]
  rw [if_neg (by simpa using hlen)]

end Pattern

/-! ### Addresses as segments -/

namespace Inet

theorem intercalate_of_beforeGap? {front high : List Text} (h : beforeGap? front = some high) :
    List.intercalate [':'] front = List.intercalate [':'] high := by
  unfold beforeGap? at h
  split at h
  · next hhead =>
    split at h
    · next hlen =>
      obtain ⟨p, rfl⟩ := List.length_eq_one_iff.1 hlen
      obtain rfl : p = [] := by simpa using hhead
      cases h
      rfl
    · cases h
  · cases h
    rfl

theorem intercalate_of_afterGap? {back low : List Text} (h : afterGap? back = some low) :
    List.intercalate [':'] back = List.intercalate [':'] low := by
  unfold afterGap? at h
  split at h
  · next hlast =>
    split at h
    · next hlen =>
      obtain ⟨p, rfl⟩ := List.length_eq_one_iff.1 hlen
      obtain rfl : p = [] := by simpa using hlast
      cases h
      rfl
    · cases h
  · cases h
    rfl

/-- Without points, no part is spread out. -/
theorem eq_of_spreadOctets? {parts spread : List Text} (hdot : ∀ p ∈ parts, '.' ∉ p)
    (h : spreadOctets? parts = some spread) : spread = parts := by
  unfold spreadOctets? at h
  split at h
  · cases h
    rfl
  · next last hlast =>
    have hlastdot : last.contains '.' = false := by
      simpa using hdot last (List.mem_of_getLast? hlast)
    rw [hlastdot, if_neg (by simp)] at h
    cases h
    rfl

theorem areParts_of_mapM {parts : List Text} {gs : List Nat} (h : parts.mapM readGroup? = some gs) :
    Pattern.AreParts parts := by
  intro p hp
  obtain ⟨g, hg⟩ := exists_of_mapM_eq_some h hp
  have hnum := (numeral?_of_readGroup? hg).1
  refine ⟨Text.ne_nil_of_numeral? hnum, fun hm => ?_⟩
  exact absurd (Text.isSome_of_numeral? hnum ':' hm) (by decide)

/-- The text of eight groups without points: eight parts, or fewer with a gap. -/
theorem exists_parts_of_readGroups? {t : Text} {n : Nat} (h : readGroups? t = some n)
    (hdot : '.' ∉ t) :
    ∃ parts gs, parts.length = 8 ∧ parts.mapM readGroup? = some gs ∧ n = ofDigitsIn 65536 gs ∧
      (t = List.intercalate [':'] parts ∨
        ∃ high low, t = Pattern.gapText high low ∧ high.length + low.length < 8 ∧
          parts = high ++ List.replicate (8 - (high.length + low.length)) ['0'] ++ low) := by
  obtain ⟨-, spread, hspread, -, parts, hfill, gs, hgs, hn⟩ := readGroups?_eq_some_iff.1 h
  have hfields : spread = Text.fields ':' t :=
    eq_of_spreadOctets? (fun p hp hm => hdot (Text.mem_of_mem_fields hp hm)) hspread
  have htext : t = List.intercalate [':'] spread := by
    rw [hfields, Text.intercalate_fields]
  rcases fillGap?_cases hfill with ⟨-, hlen, rfl⟩ |
    ⟨front, back, high, low, rfl, hf, hb, -, -, hhigh, hlow, hlen, rfl⟩
  · exact ⟨parts, gs, hlen, hgs, hn, .inl htext⟩
  · refine ⟨_, gs, ?_, hgs, hn, .inr ⟨high, low, ?_, hlen, rfl⟩⟩
    · simp only [List.length_append, List.length_replicate]
      omega
    · obtain ⟨b, bs, rfl⟩ := List.exists_cons_of_ne_nil hb
      rw [htext, Text.intercalate_append hf (by simp), List.intercalate_cons_cons, Pattern.gapText,
        intercalate_of_beforeGap? hhigh, intercalate_of_afterGap? hlow]
      rfl

end Inet

/-- In a pairing of two lists, every member of the second has a partner. -/
theorem exists_of_forall₂ {α β : Type} {R : α → β → Prop} {xs : List α} {ys : List β}
    (h : List.Forall₂ R xs ys) {y : β} (hy : y ∈ ys) : ∃ x, R x y := by
  induction h with
  | nil => cases hy
  | cons hr _ ih =>
    rcases List.mem_cons.1 hy with rfl | hy
    · exact ⟨_, hr⟩
    · exact ih hy

namespace Pattern

/-- Numerals in a row are segments of one value each. -/
theorem readSegments_of_numerals {v : Version} {parts : List Text} {gs : List Nat}
    (h : List.Forall₂ (fun p g => ∃ n : Numeral v, n.text = p ∧ n.value = g ∧
      g ≤ v.style.highest) parts gs) :
    readSegments v.style parts = .ok (gs.map Span.exact) := by
  induction h with
  | nil => rfl
  | cons hp _ ih =>
    obtain ⟨n, rfl, rfl, hle⟩ := hp
    have hseg : readSegment v.style n.text = .ok (Span.exact n.value) :=
      readSegment_text (.one n hle)
    simp [readSegments, hseg, ih]

theorem exists_numeral_of_readOctet? {p : Text} {g : Nat} (h : Inet.readOctet? p = some g) :
    ∃ n : Numeral .v4, n.text = p ∧ n.value = g ∧ g ≤ Version.v4.style.highest := by
  obtain ⟨hnum, hlen, hle⟩ := Inet.numeral?_of_readOctet? h
  have hreads : Text.numeral? 10 Text.digit? p = some g :=
    Text.numeral?_mono (fun c d => Text.digit?_of_asciiDigit?) hnum
  exact ⟨⟨p, g, hlen, hreads⟩, rfl, rfl, hle⟩

theorem exists_numeral_of_readGroup? {p : Text} {g : Nat} (h : Inet.readGroup? p = some g) :
    ∃ n : Numeral .v6, n.text = p ∧ n.value = g ∧ g ≤ Version.v6.style.highest := by
  obtain ⟨hnum, hlen⟩ := Inet.numeral?_of_readGroup? h
  have hlt : g < 16 ^ p.length := Text.numeral?_lt (fun c d => Text.hexDigit?_lt) hnum
  have hpow : 16 ^ p.length ≤ 16 ^ 4 := Nat.pow_le_pow_right (by omega) hlen
  have hle : g ≤ 0xffff := by omega
  exact ⟨⟨p, g, hlen, hnum⟩, rfl, rfl, hle⟩

/-- Four octets, read as segments, are themselves. -/
theorem readSegmentPattern_of_readOctets? {t : Text} {n : Nat} (h : Inet.readOctets? t = some n) :
    ∃ gs, gs.length = 4 ∧ (∀ g ∈ gs, g < 256) ∧ n = ofDigitsIn 256 gs ∧
      readSegmentPattern t = .ok (.segments .v4 (gs.map Span.exact)) := by
  obtain ⟨hlen, gs, hgs, rfl⟩ := Inet.readOctets?_eq_some_iff.1 h
  have hall := mapM_eq_some_iff.1 hgs
  have hnumerals := hall.imp fun p g => exists_numeral_of_readOctet?
  have hsegments : readSegments octetStyle (Text.fields '.' t) = .ok (gs.map Span.exact) :=
    readSegments_of_numerals hnumerals
  refine ⟨gs, by rw [← hall.length_eq, hlen], fun g hg => ?_, rfl, ?_⟩
  · obtain ⟨p, m, -, -, hle⟩ := exists_of_forall₂ hnumerals hg
    exact Nat.lt_succ_of_le hle
  · rw [readSegmentPattern, if_neg (Inet.colon_notMem_of_readOctets? h)]
    simp [octetParts, hlen, hsegments]

/-- Eight groups without points, read as segments, are themselves. -/
theorem readSegmentPattern_of_readGroups? {t : Text} {n : Nat} (h : Inet.readGroups? t = some n)
    (hdot : '.' ∉ t) :
    ∃ gs, gs.length = 8 ∧ (∀ g ∈ gs, g < 65536) ∧ n = ofDigitsIn 65536 gs ∧
      readSegmentPattern t = .ok (.segments .v6 (gs.map Span.exact)) := by
  obtain ⟨parts, gs, hlen, hgs, hn, htext⟩ := Inet.exists_parts_of_readGroups? h hdot
  have hparts := Inet.areParts_of_mapM hgs
  have hall := mapM_eq_some_iff.1 hgs
  have hnumerals := hall.imp fun p g => exists_numeral_of_readGroup?
  have hsegments : readSegments groupStyle parts = .ok (gs.map Span.exact) :=
    readSegments_of_numerals hnumerals
  have hgroup : groupParts t = .ok parts := by
    rcases htext with rfl | ⟨high, low, rfl, hlt, rfl⟩
    · exact groupParts_intercalate hparts hlen
    · exact groupParts_gapText (fun p hp => hparts p (by simp [hp]))
        (fun p hp => hparts p (by simp [hp])) hlt
  refine ⟨gs, by rw [← hall.length_eq, hlen], fun g hg => ?_, hn, ?_⟩
  · obtain ⟨p, m, -, -, hle⟩ := exists_of_forall₂ hnumerals hg
    exact Nat.lt_succ_of_le hle
  · rw [readSegmentPattern, if_pos (Inet.colon_mem_of_readGroups? h), hgroup]
    simp [hsegments]

/-- An address without a zone, read as segments, is itself. Only groups that end in octets are no
segments. -/
theorem readSegmentPattern_of_read? {t : Text} {x : Inet} (h : Inet.read? t = some x)
    (hbare : '%' ∉ t) (hdot : ':' ∈ t → '.' ∉ t) :
    ∃ p, readSegmentPattern t = .ok p ∧ ∀ y, p.covers y = (single x).covers y := by
  have hcovers : ∀ {v : Version} {gs : List Nat}, gs.length = v.groupCount →
      (∀ g ∈ gs, g < v.groupBase) → ∀ y,
        (segments v (gs.map Span.exact)).covers y =
          (single (.ofNumber v (ofDigitsIn v.groupBase gs))).covers y := by
    intro v gs hlen hlt y
    rw [Bool.eq_iff_iff, covers_exact_iff hlen hlt, covers_single, Inet.bare_eq_iff,
      Inet.version_ofNumber, Inet.number_ofNumber_ofDigitsIn hlen hlt]
  rcases Inet.read?_cases h with ⟨n, hn, rfl⟩ | ⟨n, hn, rfl⟩ | ⟨address, n, zone, rfl, -, -⟩
  · obtain ⟨gs, hlen, hlt, rfl, hseg⟩ := readSegmentPattern_of_readOctets? hn
    exact ⟨_, hseg, fun y => hcovers (v := .v4) hlen hlt y⟩
  · obtain ⟨gs, hlen, hlt, rfl, hseg⟩ :=
      readSegmentPattern_of_readGroups? hn (hdot (Inet.colon_mem_of_readGroups? hn))
    exact ⟨_, hseg, fun y => hcovers (v := .v6) hlen hlt y⟩
  · simp at hbare

end Pattern

end MemberAddress
