import MemberAddress.Proofs.Hyphens
import MemberAddress.Proofs.Networks

/-!
# The forms of patterns

A pattern is written as segments of four octets or eight groups, as two addresses with a hyphen
between them, or as an address with the length of a prefix. `PatternForm` is such a form as data,
with `PatternForm.text` its text and `PatternForm.Selects` the addresses that it stands for.

* `PatternForm.exists_read` reads each of the forms;
* `Pattern.selects_form` says that every form, with any blanks around it, is a pattern that selects
  just the addresses that it stands for.
-/

namespace MemberAddress

/-! ### The forms as data -/

/-- A text of blanks. -/
structure Blanks where
  text : Text
  isBlank : ∀ c ∈ text, Text.isBlank c = true

theorem Blanks.notMem (b : Blanks) {c : Char} (hc : Text.isBlank c = false) : c ∉ b.text := by
  intro hm
  rw [b.isBlank c hm] at hc
  cases hc

/-- The text of an address. -/
structure AddressText where
  text : Text
  address : Inet
  reads : Inet.read? text = some address

/-- The text of an end of a range, an address without a zone. -/
structure RangeEnd extends AddressText where
  bare : '%' ∉ text

namespace RangeEnd

theorem isLiteralChar (e : RangeEnd) : ∀ c ∈ e.text, Inet.isLiteralChar c = true :=
  Inet.isLiteralChar_of_read? e.reads e.bare

theorem notMem (e : RangeEnd) {c : Char} (hc : Inet.isLiteralChar c = false) : c ∉ e.text :=
  Inet.notMem_of_isLiteralChar e.isLiteralChar hc

theorem ne_nil (e : RangeEnd) : e.text ≠ [] := by
  obtain ⟨c, rest, h, -⟩ := Inet.exists_cons_of_read? e.reads
  rw [h]
  exact List.cons_ne_nil c rest

theorem trim (e : RangeEnd) : Text.trim e.text = e.text :=
  Text.trim_eq_self fun c hc => Inet.isBlank_of_isLiteralChar (e.isLiteralChar c hc)

theorem readLiteral? (e : RangeEnd) : Pattern.readLiteral? e.text = some e.address := by
  rw [Pattern.readLiteral?, Text.before_of_notMem e.bare, e.reads]

end RangeEnd

/-- The length of a prefix, in ASCII digits. -/
structure PrefixLength (v : Version) where
  text : Text
  value : Nat
  length_le : text.length ≤ Text.numeralLimit
  reads : Text.numeral? 10 Text.asciiDigit? text = some value
  value_le : value ≤ v.width

/-- The segment that a gap stands for. -/
def Segment.zero : Segment .v6 := .one (.ofNat 0 (by decide)) (by decide)

theorem Segment.text_zero : zero.text = ['0'] := Nat.toDigits_zero 16

theorem Segment.span_zero : zero.span = .exact 0 := rfl

/-- The documented forms of a pattern. -/
inductive PatternForm
  | octets (segments : List (Segment .v4)) (count : segments.length = 4)
  | groups (segments : List (Segment .v6)) (count : segments.length = 8)
  | gap (high low : List (Segment .v6)) (count : high.length + low.length < 8)
  | range (first last : RangeEnd) (before after : Blanks)
      (version : first.address.version = last.address.version)
      (le : first.address.number ≤ last.address.number)
  | network (start : AddressText) (length : PrefixLength start.address.version)

namespace PatternForm

/-- The text of a form. -/
def text : PatternForm → Text
  | octets segments _ => List.intercalate ['.'] (segments.map Segment.text)
  | groups segments _ => List.intercalate [':'] (segments.map Segment.text)
  | gap high low _ => Pattern.gapText (high.map Segment.text) (low.map Segment.text)
  | range first last before after _ _ =>
    first.text ++ before.text ++ '-' :: (after.text ++ last.text)
  | network start length => start.text ++ '/' :: length.text

/-- The addresses that a form stands for: those with every group in its segment, those from the
first to the last, or those with the same leading bits. -/
def Selects : PatternForm → Inet → Prop
  | octets segments _, x =>
    x.version = .v4 ∧ List.Forall₂ Span.Has (segments.map Segment.span) x.groups
  | groups segments _, x =>
    x.version = .v6 ∧ List.Forall₂ Span.Has (segments.map Segment.span) x.groups
  | gap high low _, x =>
    x.version = .v6 ∧ List.Forall₂ Span.Has (high.map Segment.span ++
      List.replicate (8 - (high.length + low.length)) (.exact 0) ++ low.map Segment.span) x.groups
  | range first last _ _ _ _, x =>
    x.version = first.address.version ∧ first.address.number ≤ x.number ∧
      x.number ≤ last.address.number
  | network start length, x =>
    x.version = start.address.version ∧ ∀ i < length.value, x.bit i = start.address.bit i

/-! ### Segments -/

variable {v : Version}

/-- A text in which only segments and separators are written. -/
def HasOnly (v : Version) (sep : Char) (t : Text) : Prop :=
  ∀ c ∈ t, c = sep ∨ ∃ g : Segment v, c ∈ g.text

theorem hasOnly_segments (sep : Char) (segments : List (Segment v)) :
    HasOnly v sep (List.intercalate [sep] (segments.map Segment.text)) := by
  intro c hm
  rcases Text.mem_intercalate hm with hc | ⟨p, hp, hc⟩
  · exact .inl hc
  · obtain ⟨g, -, rfl⟩ := List.mem_map.1 hp
    exact .inr ⟨g, hc⟩

/-- The only signs of such a text are stars, hyphens and separators. -/
theorem HasOnly.notMem {sep c : Char} {t : Text} (h : HasOnly v sep t) (hc : c ∈ Pattern.signs)
    (hsep : c ≠ sep) (hstar : c ≠ '*') (hhyphen : c ≠ '-') : c ∉ t := by
  intro hm
  rcases h c hm with rfl | ⟨g, hg⟩
  · exact hsep rfl
  · exact g.notMem_text hc hstar hhyphen hg

theorem HasOnly.isBlank {sep : Char} {t : Text} (h : HasOnly v sep t)
    (hsep : Text.isBlank sep = false) : ∀ c ∈ t, Text.isBlank c = false := by
  intro c hm
  by_contra hc
  have hblank : Text.isBlank c = true := by simpa using hc
  have hsign : c ∈ Pattern.signs := List.mem_append_right _ (by simpa [Text.isBlank] using hblank)
  have hne : ∀ d, Text.isBlank d = false → c ≠ d := by
    rintro d hd rfl
    rw [hd] at hblank
    cases hblank
  exact h.notMem hsign (hne _ hsep) (hne _ (by decide)) (hne _ (by decide)) hm

theorem areParts_segments (segments : List (Segment .v6)) :
    Pattern.AreParts (segments.map Segment.text) := by
  intro p hp
  obtain ⟨g, -, rfl⟩ := List.mem_map.1 hp
  exact ⟨g.text_ne_nil, g.notMem_text (by decide) (by decide) (by decide)⟩

/-- Four octets are read as such. -/
theorem exists_read_octets (segments : List (Segment .v4)) (count : segments.length = 4) :
    ∃ p, Pattern.read (octets segments count).text = .ok p ∧
      ∀ x, p.covers x = true ↔ (octets segments count).Selects x := by
  have hne : segments.map Segment.text ≠ [] := by
    rw [← List.length_pos_iff, List.length_map]
    omega
  have hfields : Text.fields '.' (octets segments count).text = segments.map Segment.text := by
    refine Text.fields_intercalate hne fun p hp => ?_
    obtain ⟨g, -, rfl⟩ := List.mem_map.1 hp
    exact g.notMem_text (by decide) (by decide) (by decide)
  -- three points, too few for two addresses with a hyphen between them
  have hdots : (octets segments count).text.count '.' = 3 := by
    have hlen := Text.length_fields '.' (octets segments count).text
    rw [hfields, List.length_map, count] at hlen
    omega
  have htext : (octets segments count).text ≠ [] := by
    intro h
    simp [h] at hdots
  have honly : HasOnly .v4 '.' (octets segments count).text := hasOnly_segments '.' segments
  have hblank := honly.isBlank (by decide)
  have hcolon : ':' ∉ (octets segments count).text :=
    honly.notMem (by decide) (by decide) (by decide) (by decide)
  have hpercent : '%' ∉ (octets segments count).text :=
    honly.notMem (by decide) (by decide) (by decide) (by decide)
  have hslash : '/' ∉ (octets segments count).text :=
    honly.notMem (by decide) (by decide) (by decide) (by decide)
  have hsegments : Pattern.readSegments Pattern.octetStyle (segments.map Segment.text) =
      .ok (segments.map Segment.span) := Pattern.readSegments_text segments
  have hseg : Pattern.readSegmentPattern (octets segments count).text =
      .ok (.segments .v4 (segments.map Segment.span)) := by
    rw [Pattern.readSegmentPattern, if_neg hcolon, Pattern.octetParts, hfields,
      if_pos (by rw [List.length_map, count])]
    simp only [hsegments]
  obtain ⟨q, hread, hcovers⟩ := Pattern.read_of_readSegmentPattern htext hblank hslash hpercent
    (fun h => absurd h hcolon)
    (Pattern.readEnds?_eq_none_of_octets hblank hpercent hcolon hdots) hseg
  refine ⟨q, hread, fun x => ?_⟩
  rw [hcovers, Pattern.covers_segments_iff (by rw [List.length_map, count]; rfl), Selects]

/-- A text of groups, with a gap or without, is read as the eight segments of its parts. -/
theorem exists_read_groupParts {t : Text} {segments : List (Segment .v6)}
    (honly : HasOnly .v6 ':' t) (hparts : Pattern.groupParts t = .ok (segments.map Segment.text))
    (hlen : segments.length = 8) (hcolon : ':' ∈ t) (hcount : t.count ':' ≤ 8)
    (hgap : ∀ l r, Pattern.cutGap t = some (l, r) → Pattern.cutGap r = none) :
    ∃ p, Pattern.read t = .ok p ∧ ∀ x, p.covers x = true ↔
      x.version = .v6 ∧ List.Forall₂ Span.Has (segments.map Segment.span) x.groups := by
  have hblank := honly.isBlank (by decide)
  have hdot : '.' ∉ t := honly.notMem (by decide) (by decide) (by decide) (by decide)
  have hpercent : '%' ∉ t := honly.notMem (by decide) (by decide) (by decide) (by decide)
  have hslash : '/' ∉ t := honly.notMem (by decide) (by decide) (by decide) (by decide)
  have hsegments : Pattern.readSegments Pattern.groupStyle (segments.map Segment.text) =
      .ok (segments.map Segment.span) := Pattern.readSegments_text segments
  have hseg : Pattern.readSegmentPattern t =
      .ok (.segments .v6 (segments.map Segment.span)) := by
    rw [Pattern.readSegmentPattern, if_pos hcolon, hparts]
    simp only [hsegments]
  obtain ⟨q, hread, hcovers⟩ := Pattern.read_of_readSegmentPattern (List.ne_nil_of_mem hcolon)
    hblank hslash hpercent (fun _ => hdot)
    (Pattern.readEnds?_eq_none_of_groups hblank hpercent hdot hcount hgap) hseg
  refine ⟨q, hread, fun x => ?_⟩
  rw [hcovers, Pattern.covers_segments_iff (by rw [List.length_map, hlen]; rfl)]

/-- How many colons stand between parts. -/
theorem count_intercalate {parts : List Text} (h : Pattern.AreParts parts) :
    (List.intercalate [':'] parts).count ':' = parts.length - 1 := by
  by_cases hne : parts = []
  · subst hne
    rfl
  · have hlen := Text.length_fields ':' (List.intercalate [':'] parts)
    rw [Pattern.fields_intercalate_of_areParts hne h] at hlen
    omega

/-- Eight groups are read as such. -/
theorem exists_read_groups (segments : List (Segment .v6)) (count : segments.length = 8) :
    ∃ p, Pattern.read (groups segments count).text = .ok p ∧
      ∀ x, p.covers x = true ↔ (groups segments count).Selects x := by
  have hare := areParts_segments segments
  have hcolons : (groups segments count).text.count ':' = 7 := by
    rw [text, count_intercalate hare, List.length_map, count]
  have hcolon : ':' ∈ (groups segments count).text := by
    rw [← List.count_pos_iff, hcolons]
    omega
  have hnogap : Pattern.cutGap (groups segments count).text = none :=
    Pattern.cutGap_intercalate hare
  -- seven colons without a gap leave no room for two addresses
  refine exists_read_groupParts (hasOnly_segments ':' segments) ?_ count hcolon (by omega)
    fun l r h => ?_
  · exact Pattern.groupParts_intercalate hare (by rw [List.length_map, count])
  · rw [hnogap] at h
    cases h

/-- Groups with a gap are read with zeros in its place. -/
theorem exists_read_gap (high low : List (Segment .v6)) (count : high.length + low.length < 8) :
    ∃ p, Pattern.read (gap high low count).text = .ok p ∧
      ∀ x, p.covers x = true ↔ (gap high low count).Selects x := by
  have hhigh := areParts_segments high
  have hlow := areParts_segments low
  -- one colon for each group that is written and one more, so eight at most
  have hcolons : (gap high low count).text.count ':' ≤ 8 := by
    rw [text, Pattern.gapText, List.count_append, List.count_cons_self, List.count_cons_self,
      count_intercalate hhigh, count_intercalate hlow, List.length_map, List.length_map]
    omega
  have honly : HasOnly .v6 ':' (gap high low count).text := by
    intro c hc
    rw [text, Pattern.gapText, List.mem_append, List.mem_cons, List.mem_cons] at hc
    rcases hc with hc | rfl | rfl | hc
    · exact hasOnly_segments ':' high c hc
    · exact .inl rfl
    · exact .inl rfl
    · exact hasOnly_segments ':' low c hc
  have hcolon : ':' ∈ (gap high low count).text := by simp [text, Pattern.gapText]
  have hparts : Pattern.groupParts (gap high low count).text =
      .ok ((high ++ List.replicate (8 - (high.length + low.length)) Segment.zero ++ low).map
        Segment.text) := by
    have h := Pattern.groupParts_gapText hhigh hlow (by simpa using count)
    simp only [List.length_map] at h
    rw [text, h]
    simp [Segment.text_zero]
  obtain ⟨p, hread, hcovers⟩ := exists_read_groupParts honly hparts
    (by simp only [List.length_append, List.length_replicate]; omega) hcolon hcolons
    fun l r h => by
      rw [text, Pattern.cutGap_gapText hhigh] at h
      cases h
      exact Pattern.cutGap_intercalate hlow
  refine ⟨p, hread, fun x => ?_⟩
  rw [hcovers, Selects]
  simp [Segment.span_zero]

/-! ### Ranges -/

/-- A text with a hyphen and without a zone is no address. -/
theorem readLiteral?_of_hyphen {t : Text} (hm : '-' ∈ t) (bare : '%' ∉ t) :
    Pattern.readLiteral? t = none := by
  rw [Pattern.readLiteral?, Text.before_of_notMem bare]
  by_contra h
  obtain ⟨x, hx⟩ := Option.ne_none_iff_exists'.1 h
  exact absurd (Inet.isLiteralChar_of_read? hx bare '-' hm) (by decide)

/-- A hyphen between two addresses, with any blanks around it, has them as its ends. -/
theorem readEnds?_text (first last : RangeEnd) (before after : Blanks) :
    Pattern.readEnds? (first.text ++ before.text ++ '-' :: (after.text ++ last.text)) =
      some (first.address, last.address) := by
  have hyphen : '-' ∉ first.text ++ before.text := by
    simp [first.notMem (c := '-') (by decide), before.notMem (c := '-') (by decide)]
  have hyphen' : '-' ∉ after.text ++ last.text := by
    simp [last.notMem (c := '-') (by decide), after.notMem (c := '-') (by decide)]
  have hfirst : Text.trim (first.text ++ before.text) = first.text := by
    simpa [first.trim] using
      Text.trim_append_append (t := first.text) (List.forall_mem_nil _) before.isBlank
  have hlast : Text.trim (after.text ++ last.text) = last.text := by
    simpa [last.trim] using
      Text.trim_append_append (t := last.text) after.isBlank (List.forall_mem_nil _)
  simp only [Pattern.readEnds?, Text.fields_append hyphen, Text.fields_of_notMem hyphen', hfirst,
    hlast, first.readLiteral?, last.readLiteral?]

/-- Two addresses with a hyphen between them are read as a range, if they are of one version and in
order. -/
theorem read_range (first last : RangeEnd) (before after : Blanks) :
    let t := first.text ++ before.text ++ '-' :: (after.text ++ last.text)
    Pattern.read t =
      if first.address.version ≠ last.address.version ∨
          last.address.number < first.address.number then .error (.range t)
      else .ok (.range first.address.version first.address.number last.address.number) := by
  intro t
  have hsign : ∀ {c : Char}, Inet.isLiteralChar c = false → Text.isBlank c = false → c ≠ '-' →
      c ∉ t := by
    intro c hc hblank hne
    simp [t, first.notMem hc, last.notMem hc, before.notMem hblank, after.notMem hblank, hne]
  have hslash : '/' ∉ t := hsign (by decide) (by decide) (by decide)
  have hpercent : '%' ∉ t := hsign (by decide) (by decide) (by decide)
  have hne : t ≠ [] := by simp [t]
  have htrim : Text.trim t = t := by
    obtain ⟨c, rest, hfirst, hc⟩ := Inet.exists_cons_of_read? first.reads
    have h := Text.trim_cons_append (t := rest ++ before.text ++ '-' :: after.text)
      (Inet.isBlank_of_isLiteralChar hc) last.ne_nil
      fun c hc => Inet.isBlank_of_isLiteralChar (last.isLiteralChar c hc)
    simpa [t, hfirst] using h
  have hends : Pattern.readEnds? t = some (first.address, last.address) :=
    readEnds?_text first last before after
  rw [Pattern.read, htrim, if_neg hne, Pattern.readTrimmed, if_neg hslash,
    readLiteral?_of_hyphen (by simp [t]) hpercent]
  simp only [hends]

theorem exists_read_range (first last : RangeEnd) (before after : Blanks)
    (version : first.address.version = last.address.version)
    (le : first.address.number ≤ last.address.number) :
    ∃ p, Pattern.read (range first last before after version le).text = .ok p ∧
      ∀ x, p.covers x = true ↔ (range first last before after version le).Selects x := by
  have horder : ¬ (first.address.version ≠ last.address.version ∨
      last.address.number < first.address.number) := by
    rw [not_or, not_not]
    exact ⟨version, Nat.not_lt.2 le⟩
  refine ⟨_, (read_range first last before after).trans (if_neg horder), fun x => ?_⟩
  simp only [Pattern.covers, Pattern.version, Selects, Bool.and_eq_true, beq_iff_eq,
    decide_eq_true_eq]

/-! ### Networks -/

/-- An address with the length of a prefix is read as its network. -/
theorem exists_read_network (start : AddressText) (length : PrefixLength start.address.version) :
    ∃ p, Pattern.read (network start length).text = .ok p ∧
      ∀ x, p.covers x = true ↔ (network start length).Selects x := by
  have hdigits : ∀ c ∈ length.text, (Text.asciiDigit? c).isSome = true :=
    Text.isSome_of_numeral? length.reads
  have hslash : '/' ∉ length.text := fun hm => absurd (hdigits _ hm) (by decide)
  have hlength : Network.readLength? start.address.version.width length.text =
      some length.value := by
    rw [Network.readLength?, if_neg (Nat.not_lt.2 length.length_le), length.reads]
    simp [length.value_le]
  have htrim : Text.trim (start.text ++ '/' :: length.text) = start.text ++ '/' :: length.text := by
    obtain ⟨c, rest, hstart, hc⟩ := Inet.exists_cons_of_read? start.reads
    have h := Text.trim_cons_append (t := rest ++ ['/']) (Inet.isBlank_of_isLiteralChar hc)
      (Text.ne_nil_of_numeral? length.reads)
      fun c hc => Inet.isBlank_of_isLiteralChar (Inet.isLiteralChar_of_asciiDigit (hdigits c hc))
    simpa [hstart] using h
  refine ⟨.network (.of start.address length.value), ?_, fun x => ?_⟩
  · rw [text, Pattern.read, htrim, if_neg (by simp), Pattern.readTrimmed, if_pos (by simp),
      Network.read?_append start.reads hslash hlength]
  · rw [Selects, ← Network.contains_of_iff length.value_le]
    simp only [Pattern.covers, Pattern.version, Network.contains, Bool.and_eq_true, and_self_left]

/-! ### Every form -/

theorem exists_read (form : PatternForm) :
    ∃ p, Pattern.read form.text = .ok p ∧ ∀ x, p.covers x = true ↔ form.Selects x := by
  cases form with
  | octets segments count => exact exists_read_octets segments count
  | groups segments count => exact exists_read_groups segments count
  | gap high low count => exact exists_read_gap high low count
  | range first last before after version le =>
    exact exists_read_range first last before after version le
  | network start length => exact exists_read_network start length

end PatternForm

namespace Pattern

/-- Blanks around a pattern do not change how it is read. -/
theorem read_append_append {t : Text} {p : Pattern} (pre post : Blanks) (h : read t = .ok p) :
    read (pre.text ++ t ++ post.text) = .ok p := by
  unfold read at h ⊢
  rw [Text.trim_append_append pre.isBlank post.isBlank]
  split at h
  · cases h
  · next hne => rw [if_neg hne, h]

/-- Every form of a pattern, with any blanks around it, is read as a pattern and selects just the
addresses that the form stands for. -/
theorem selects_form (form : PatternForm) (pre post : Blanks) :
    isPattern (pre.text ++ form.text ++ post.text) = true ∧
      ∀ x, selects (pre.text ++ form.text ++ post.text) x = true ↔ form.Selects x := by
  obtain ⟨p, hread, hcovers⟩ := form.exists_read
  have hread := read_append_append pre post hread
  constructor
  · rw [isPattern, hread]
    rfl
  · intro x
    rw [selects, hread]
    exact hcovers x

/-- The form with the segments 10, 3, 10 and 4 to 18. -/
example : (PatternForm.octets [.one (.ofNat 10 (by decide)) (by decide),
      .one (.ofNat 3 (by decide)) (by decide), .one (.ofNat 10 (by decide)) (by decide),
      .between (.ofNat 4 (by decide)) (.ofNat 18 (by decide)) (by decide) (by decide)] rfl).text =
    "10.3.10.4-18".toList := by decide +kernel

end Pattern

end MemberAddress
