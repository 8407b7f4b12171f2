import MemberAddress.Proofs.Printing

/-!
# Spellings of an address

A pattern without stars, hyphens, prefix lengths and zones has one value for each group, so it
selects one address. It is not always the text of that address: a value in a pattern may have
needless zeros in front, octets have the digits of any script, and a line feed after the digits is
ignored.

* `Spelling` is a value with its text, and `ValueForm` a pattern of such values;
* `Pattern.readSegmentPattern_eq_ok_iff` says that nothing else reads as a segment pattern;
* `ValueForm.isLiteral_iff` says which of these patterns are texts of addresses;
* `Pattern.agreesWithReader_iff` puts both together: patterns and addresses are the same texts just
  where no value is spelled in these ways.
-/

namespace MemberAddress

variable {v : Version}

/-- None of the signs that make a pattern more than one value for each group. -/
def Pattern.IsPlain (t : Text) : Prop := ∀ c ∈ ['*', '-', '/', '%'], c ∉ t

-- Named, since the search for an instance may go through all characters.
instance (t : Text) : Decidable (Pattern.IsPlain t) := List.decidableBAll (fun c => c ∉ t) _

/-- The pattern and the reader of addresses agree on a text: it is a pattern just when it is the
text of an address, blanks aside, and then it selects that address alone. -/
def Pattern.AgreesWithReader (t : Text) : Prop :=
  (isPattern t = true ↔ (Inet.read? (Text.trim t)).isSome = true) ∧
    ∀ x, Inet.read? (Text.trim t) = some x → ∀ y, selects t y = true ↔ y.bare = x

/-! ### One value -/

/-- One value of a pattern, as it is spelled. -/
structure Spelling (v : Version) where
  numeral : Numeral v
  le : numeral.value ≤ v.style.highest
  lineFeed : Bool

namespace Spelling

/-- The digits, with the line feed if there is one. -/
def text (g : Spelling v) : Text := g.numeral.text ++ if g.lineFeed then ['\n'] else []

def value (g : Spelling v) : Nat := g.numeral.value

theorem value_lt (g : Spelling v) : g.value < v.groupBase := by
  have hle := g.le
  cases v with
  | v4 => exact Nat.lt_succ_of_le hle
  | v6 => exact Nat.lt_succ_of_le hle

theorem text_ne_nil (g : Spelling v) : g.text ≠ [] := by
  intro h
  exact g.numeral.ne_nil (List.append_eq_nil_iff.1 h).1

theorem notMem_of_sign (g : Spelling v) {c : Char} (hc : c ∈ Pattern.signs) (hne : c ≠ '\n') :
    c ∉ g.text := by
  intro hm
  rcases List.mem_append.1 hm with hm | hm
  · exact g.numeral.notMem_of_sign hc hm
  · split at hm
    · exact hne (List.mem_singleton.1 hm)
    · cases hm

theorem isPlain (g : Spelling v) : Pattern.IsPlain g.text := by
  have hsigns : ['*', '-', '/', '%'] ⊆ Pattern.signs := by decide
  have hfeed : '\n' ∉ ['*', '-', '/', '%'] := by decide
  intro c hc
  exact g.notMem_of_sign (hsigns hc) (ne_of_mem_of_not_mem hc hfeed)

theorem lineFeed_eq_false_iff (g : Spelling v) : g.lineFeed = false ↔ '\n' ∉ g.text := by
  have hdigits : '\n' ∉ g.numeral.text := g.numeral.notMem_of_sign (by decide)
  cases hfeed : g.lineFeed with
  | false => simp [text, hfeed, hdigits]
  | true => simp [text, hfeed]

theorem text_of_lineFeed {g : Spelling v} (h : g.lineFeed = false) : g.text = g.numeral.text := by
  simp [text, h]

/-- The zero that a gap stands for. -/
def zero : Spelling v := ⟨.ofNat 0 (Nat.zero_le _), Nat.zero_le _, false⟩

theorem text_zero : (zero : Spelling v).text = ['0'] := by
  show Nat.toDigits v.style.base 0 ++ [] = ['0']
  rw [Nat.toDigits_zero, List.append_nil]

theorem value_zero : (zero : Spelling v).value = 0 := rfl

end Spelling

namespace Pattern

variable {p t : Text} {n : Nat}

/-- A bound of a segment is a numeral, perhaps with a line feed after it. -/
theorem readBound?_eq_some_iff :
    readBound? v.style p = some n ↔
      ∃ m : Numeral v, m.value = n ∧ (p = m.text ∨ p = m.text ++ ['\n']) := by
  constructor
  · intro h
    unfold readBound? at h
    dsimp only at h
    split at h
    · cases h
    · next hlen =>
      refine ⟨⟨dropFinalNewline p, n, by omega, h⟩, rfl, ?_⟩
      show p = dropFinalNewline p ∨ p = dropFinalNewline p ++ ['\n']
      unfold dropFinalNewline
      by_cases hlast : p.getLast? = some '\n'
      · right
        rw [if_pos hlast]
        exact (List.dropLast_append_getLast? _ hlast).symm
      · left
        rw [if_neg hlast]
  · rintro ⟨m, rfl, rfl | rfl⟩
    · exact m.readBound?
    · have hdrop : dropFinalNewline (m.text ++ ['\n']) = m.text := by simp [dropFinalNewline]
      simp only [readBound?, hdrop]
      rw [if_neg (Nat.not_lt.2 m.length_le), m.reads]

theorem readBound?_spelled (g : Spelling v) : readBound? v.style g.text = some g.value := by
  refine readBound?_eq_some_iff.2 ⟨g.numeral, rfl, ?_⟩
  unfold Spelling.text
  split
  · right
    rfl
  · left
    simp

/-- Without stars and hyphens, a segment is one value as it is spelled. -/
theorem readSegment_eq_ok_iff (hp : IsPlain p) {span : Span} :
    readSegment v.style p = .ok span ↔ ∃ g : Spelling v, g.text = p ∧ span = .exact g.value := by
  have hstar : p ≠ ['*'] := by
    rintro rfl
    exact hp '*' (by simp) (by simp)
  have hcut : Text.cut '-' p = (p, none) := Text.cut_eq_of_notMem (hp '-' (by simp))
  have hseg : readSegment v.style p = .ok span ↔
      ∃ n, readBound? v.style p = some n ∧ n ≤ v.style.highest ∧ span = .exact n := by
    simp only [readSegment, if_neg hstar, hcut, Option.getD_none]
    cases readBound? v.style p with
    | none => simp
    | some n =>
      by_cases hn : v.style.highest < n
      · simp [hn]
      · have hle : n ≤ v.style.highest := by omega
        simp [hn, hle, Span.exact, eq_comm]
  rw [hseg]
  constructor
  · rintro ⟨n, hn, hle, rfl⟩
    obtain ⟨m, rfl, rfl | rfl⟩ := readBound?_eq_some_iff.1 hn
    · exact ⟨⟨m, hle, false⟩, by simp [Spelling.text], rfl⟩
    · exact ⟨⟨m, hle, true⟩, by simp [Spelling.text], rfl⟩
  · rintro ⟨g, rfl, rfl⟩
    exact ⟨g.value, readBound?_spelled g, g.le, rfl⟩

theorem readSegments_eq_ok_iff {parts : List Text} (h : ∀ p ∈ parts, IsPlain p)
    {spans : List Span} :
    readSegments v.style parts = .ok spans ↔
      ∃ gs : List (Spelling v), gs.map Spelling.text = parts ∧
        spans = (gs.map Spelling.value).map Span.exact := by
  induction parts generalizing spans with
  | nil =>
    constructor
    · rintro ⟨⟩
      exact ⟨[], rfl, rfl⟩
    · rintro ⟨gs, hgs, rfl⟩
      rw [List.map_eq_nil_iff.1 hgs]
      rfl
  | cons p parts ih =>
    have hp := h p List.mem_cons_self
    have hparts : ∀ q ∈ parts, IsPlain q := fun q hq => h q (List.mem_cons_of_mem p hq)
    constructor
    · intro hread
      unfold readSegments at hread
      split at hread
      · cases hread
      · next span hspan =>
        split at hread
        · cases hread
        · next rest hrest =>
          cases hread
          obtain ⟨g, rfl, rfl⟩ := (readSegment_eq_ok_iff hp).1 hspan
          obtain ⟨gs, rfl, rfl⟩ := (ih hparts).1 hrest
          exact ⟨g :: gs, rfl, rfl⟩
    · rintro ⟨gs, hgs, rfl⟩
      obtain ⟨g, gs, rfl, rfl, hrest⟩ := List.map_eq_cons_iff.1 hgs
      have hseg := (readSegment_eq_ok_iff hp).2 ⟨g, rfl, rfl⟩
      have hsegs := (ih hparts).2 ⟨gs, hrest, rfl⟩
      simp [readSegments, hseg, hsegs]

/-! ### Texts of parts -/

theorem eq_append_of_cutGap {l r : Text} (h : cutGap t = some (l, r)) :
    t = l ++ ':' :: ':' :: r := by
  induction t using cutGap.induct generalizing l r with
  | case1 rest =>
    cases h
    rfl
  | case2 c rest hne ih =>
    rw [cutGap.eq_2 c rest hne] at h
    obtain ⟨⟨l', r'⟩, hr, he⟩ := Option.map_eq_some_iff.1 h
    cases he
    rw [ih hr, List.cons_append]
  | case3 => cases h

theorem intercalate_colonParts (t : Text) : List.intercalate [':'] (colonParts t) = t := by
  unfold colonParts
  split
  · next h => rw [h]; rfl
  · exact Text.intercalate_fields ':' t

/-- The parts of a text of groups: eight of them, or fewer around a gap with zeros in it. -/
theorem groupParts_cases {parts : List Text} (h : groupParts t = .ok parts) :
    (parts.length = 8 ∧ t = List.intercalate [':'] parts) ∨
      ∃ high low, high.length + low.length < 8 ∧ t = gapText high low ∧
        parts = high ++ List.replicate (8 - (high.length + low.length)) ['0'] ++ low := by
  unfold groupParts at h
  split at h
  · split at h
    · next hlen =>
      cases h
      exact .inl ⟨hlen, (Text.intercalate_fields ':' t).symm⟩
    · cases h
  · next left right hcut =>
    dsimp only at h
    split at h
    · cases h
    · next hwritten =>
      cases h
      have hlt : ¬ 8 ≤ (colonParts left).length + (colonParts right).length := fun hle =>
        hwritten (.inr hle)
      refine .inr ⟨colonParts left, colonParts right, by omega, ?_, rfl⟩
      rw [gapText, intercalate_colonParts, intercalate_colonParts]
      exact eq_append_of_cutGap hcut

theorem isPlain_of_mem_intercalate {sep : Char} {parts : List Text}
    (h : IsPlain (List.intercalate [sep] parts)) : ∀ p ∈ parts, IsPlain p := by
  intro p hp c hc hm
  exact h c hc (Text.mem_intercalate_of_mem hp hm)

end Pattern

/-! ### Patterns of values -/

/-- A pattern with one value for each group, as it is spelled. -/
inductive ValueForm
  | octets (gs : List (Spelling .v4)) (count : gs.length = 4)
  | groups (gs : List (Spelling .v6)) (count : gs.length = 8)
  | gap (high low : List (Spelling .v6)) (count : high.length + low.length < 8)

namespace ValueForm

/-- The text of a pattern of values. -/
def text : ValueForm → Text
  | octets gs _ => List.intercalate ['.'] (gs.map Spelling.text)
  | groups gs _ => List.intercalate [':'] (gs.map Spelling.text)
  | gap high low _ => Pattern.gapText (high.map Spelling.text) (low.map Spelling.text)

def version : ValueForm → Version
  | octets _ _ => .v4
  | groups _ _ => .v6
  | gap _ _ _ => .v6

/-- The values of all groups, with zeros in the gap. -/
def values : ValueForm → List Nat
  | octets gs _ => gs.map Spelling.value
  | groups gs _ => gs.map Spelling.value
  | gap high low _ => high.map Spelling.value ++
      List.replicate (8 - (high.length + low.length)) 0 ++ low.map Spelling.value

/-- The address with these values as its groups. -/
def address (form : ValueForm) : Inet :=
  .ofNumber form.version (ofDigitsIn form.version.groupBase form.values)

/-- The values are spelled as in an address: octets just as they are printed, and no group with a
line feed. -/
def IsLiteral : ValueForm → Prop
  | octets gs _ => ∀ g ∈ gs, g.text = Text.decimal g.value
  | groups gs _ => ∀ g ∈ gs, g.lineFeed = false
  | gap high low _ => ∀ g ∈ high ++ low, g.lineFeed = false

theorem length_values (form : ValueForm) : form.values.length = form.version.groupCount := by
  cases form with
  | octets gs count => exact (List.length_map _).trans count
  | groups gs count => exact (List.length_map _).trans count
  | gap high low count =>
    show (high.map Spelling.value ++ List.replicate (8 - (high.length + low.length)) 0 ++
      low.map Spelling.value).length = 8
    simp only [List.length_append, List.length_map, List.length_replicate]
    omega

theorem values_lt (form : ValueForm) : ∀ n ∈ form.values, n < form.version.groupBase := by
  have hlt : ∀ {v : Version} {gs : List (Spelling v)}, ∀ n ∈ gs.map Spelling.value,
      n < v.groupBase := by
    intro v gs n hn
    obtain ⟨g, -, rfl⟩ := List.mem_map.1 hn
    exact g.value_lt
  cases form with
  | octets gs _ => exact hlt
  | groups gs _ => exact hlt
  | gap high low _ =>
    intro n hn
    rcases List.mem_append.1 hn with hn | hn
    · rcases List.mem_append.1 hn with hn | hn
      · exact hlt n hn
      · rw [List.eq_of_mem_replicate hn]
        exact Spelling.zero.value_lt
    · exact hlt n hn

theorem bare_address (form : ValueForm) : form.address.bare = form.address := by
  unfold address
  cases form.version <;> rfl

/-- The pattern of these values selects their address alone. -/
theorem covers_iff (form : ValueForm) (x : Inet) :
    (Pattern.segments form.version (form.values.map Span.exact)).covers x = true ↔
      x.bare = form.address := by
  rw [Pattern.covers_exact_iff form.length_values form.values_lt, ← form.bare_address,
    Inet.bare_eq_iff, address, Inet.version_ofNumber,
    Inet.number_ofNumber_ofDigitsIn form.length_values form.values_lt]

/-! ### Reading a pattern of values -/

theorem areParts (gs : List (Spelling .v6)) : Pattern.AreParts (gs.map Spelling.text) := by
  intro p hp
  obtain ⟨g, -, rfl⟩ := List.mem_map.1 hp
  exact ⟨g.text_ne_nil, g.notMem_of_sign (by decide) (by decide)⟩

/-- Octets have no colons, and no points but those between them. -/
theorem fields_octets {gs : List (Spelling .v4)} (count : gs.length = 4) :
    ':' ∉ List.intercalate ['.'] (gs.map Spelling.text) ∧
      Text.fields '.' (List.intercalate ['.'] (gs.map Spelling.text)) = gs.map Spelling.text := by
  have hsign : ∀ c ∈ Pattern.signs, c ≠ '\n' → ∀ p ∈ gs.map Spelling.text, c ∉ p := by
    intro c hc hfeed p hp
    obtain ⟨g, -, rfl⟩ := List.mem_map.1 hp
    exact g.notMem_of_sign hc hfeed
  have hne : gs.map Spelling.text ≠ [] := by
    intro h
    rw [List.map_eq_nil_iff.1 h] at count
    cases count
  refine ⟨fun hm => ?_, Text.fields_intercalate hne (hsign '.' (by decide) (by decide))⟩
  rcases Text.mem_intercalate hm with hm | ⟨p, hp, hm⟩
  · cases hm
  · exact hsign ':' (by decide) (by decide) p hp hm

theorem colon_mem_groups {gs : List (Spelling .v6)} (count : gs.length = 8) :
    ':' ∈ List.intercalate [':'] (gs.map Spelling.text) := by
  have hne : gs.map Spelling.text ≠ [] := by
    intro h
    rw [List.map_eq_nil_iff.1 h] at count
    cases count
  have hfields := Text.length_fields ':' (List.intercalate [':'] (gs.map Spelling.text))
  rw [Pattern.fields_intercalate_of_areParts hne (areParts gs), List.length_map, count] at hfields
  exact List.count_pos_iff.1 (by omega)

theorem readSegments_spelled (gs : List (Spelling v)) :
    Pattern.readSegments v.style (gs.map Spelling.text) =
      .ok ((gs.map Spelling.value).map Span.exact) := by
  refine (Pattern.readSegments_eq_ok_iff fun p hp => ?_).2 ⟨gs, rfl, rfl⟩
  obtain ⟨g, -, rfl⟩ := List.mem_map.1 hp
  exact g.isPlain

/-- The text of a pattern of values reads as this pattern. -/
theorem readSegmentPattern_text (form : ValueForm) :
    Pattern.readSegmentPattern form.text =
      .ok (.segments form.version (form.values.map Span.exact)) := by
  cases form with
  | octets gs count =>
    obtain ⟨hcolon, hfields⟩ := fields_octets count
    have hoctets : Pattern.octetParts (List.intercalate ['.'] (gs.map Spelling.text)) =
        .ok (gs.map Spelling.text) := by
      rw [Pattern.octetParts, hfields, if_pos (by rw [List.length_map, count])]
    have hsegments : Pattern.readSegments Pattern.octetStyle (gs.map Spelling.text) =
        .ok ((gs.map Spelling.value).map Span.exact) := readSegments_spelled gs
    simp only [text, Pattern.readSegmentPattern, if_neg hcolon, hoctets, hsegments]
    rfl
  | groups gs count =>
    have hlen : (gs.map Spelling.text).length = 8 := by rw [List.length_map, count]
    have hsegments : Pattern.readSegments Pattern.groupStyle (gs.map Spelling.text) =
        .ok ((gs.map Spelling.value).map Span.exact) := readSegments_spelled gs
    simp only [text, Pattern.readSegmentPattern, if_pos (colon_mem_groups count),
      Pattern.groupParts_intercalate (areParts gs) hlen, hsegments]
    rfl
  | gap high low count =>
    have hcolon : ':' ∈ Pattern.gapText (high.map Spelling.text) (low.map Spelling.text) := by
      simp [Pattern.gapText]
    have hparts := Pattern.groupParts_gapText (areParts high) (areParts low)
      (by simpa using count)
    -- the zeros in the gap are spelled values like the others
    let all : List (Spelling .v6) :=
      high ++ List.replicate (8 - (high.length + low.length)) Spelling.zero ++ low
    have htexts : high.map Spelling.text ++
        List.replicate (8 - ((high.map Spelling.text).length + (low.map Spelling.text).length))
          ['0'] ++ low.map Spelling.text = all.map Spelling.text := by
      simp [all, Spelling.text_zero]
    have hvalues : values (gap high low count) = all.map Spelling.value := by
      simp [all, values, Spelling.value_zero]
    have hsegments : Pattern.readSegments Pattern.groupStyle (all.map Spelling.text) =
        .ok ((all.map Spelling.value).map Span.exact) := readSegments_spelled all
    rw [htexts] at hparts
    simp only [text, Pattern.readSegmentPattern, if_pos hcolon, hparts, hsegments, hvalues]
    rfl

end ValueForm

/-- Values spelled as zeros are zeros. -/
theorem Spelling.values_eq_replicate {gs : List (Spelling .v6)} {n : Nat}
    (h : gs.map Spelling.text = List.replicate n ['0']) :
    gs.map Spelling.value = List.replicate n 0 := by
  have hcount : gs.length = n := by simpa using congrArg List.length h
  refine List.eq_replicate_iff.2 ⟨by rw [List.length_map, hcount], fun m hm => ?_⟩
  obtain ⟨g, hg, rfl⟩ := List.mem_map.1 hm
  have htext : g.text ∈ gs.map Spelling.text := List.mem_map_of_mem hg
  rw [h] at htext
  have hread := Pattern.readBound?_spelled g
  rw [List.eq_of_mem_replicate htext] at hread
  exact (Option.some.inj hread).symm

namespace Pattern

variable {t : Text} {parts : List Text} {spans : List Span}

/-- Groups that read as segments are spelled values, and the zeros in their gap are zeros. -/
theorem exists_form_of_groupParts (h : IsPlain t) (hparts : groupParts t = .ok parts)
    (hspans : readSegments Version.v6.style parts = .ok spans) :
    ∃ form : ValueForm, form.text = t ∧
      segments .v6 spans = .segments form.version (form.values.map Span.exact) := by
  rcases groupParts_cases hparts with ⟨hlen, rfl⟩ | ⟨high, low, hlen, rfl, rfl⟩
  · obtain ⟨gs, rfl, rfl⟩ := (readSegments_eq_ok_iff (isPlain_of_mem_intercalate h)).1 hspans
    rw [List.length_map] at hlen
    exact ⟨.groups gs hlen, rfl, rfl⟩
  · have hhigh : IsPlain (List.intercalate [':'] high) := fun c hc hm =>
      h c hc (List.mem_append_left _ hm)
    have hlow : IsPlain (List.intercalate [':'] low) := fun c hc hm =>
      h c hc (List.mem_append_right _ (by simp [hm]))
    have hplain : ∀ p ∈ high ++ List.replicate (8 - (high.length + low.length)) ['0'] ++ low,
        IsPlain p := by
      intro p hp
      rcases List.mem_append.1 hp with hp | hp
      · rcases List.mem_append.1 hp with hp | hp
        · exact isPlain_of_mem_intercalate hhigh p hp
        · rw [List.eq_of_mem_replicate hp]
          decide
      · exact isPlain_of_mem_intercalate hlow p hp
    obtain ⟨gs, hgs, rfl⟩ := (readSegments_eq_ok_iff hplain).1 hspans
    obtain ⟨front, lows, rfl, hfront, rfl⟩ := List.map_eq_append_iff.1 hgs
    obtain ⟨highs, zeros, rfl, rfl, hzeros⟩ := List.map_eq_append_iff.1 hfront
    have hvalues := Spelling.values_eq_replicate hzeros
    rw [List.length_map, List.length_map] at hlen hvalues
    refine ⟨.gap highs lows hlen, rfl, ?_⟩
    simp [ValueForm.version, ValueForm.values, hvalues]

theorem exists_form_of_octetParts (h : IsPlain t) (hparts : octetParts t = .ok parts)
    (hspans : readSegments Version.v4.style parts = .ok spans) :
    ∃ form : ValueForm, form.text = t ∧
      segments .v4 spans = .segments form.version (form.values.map Span.exact) := by
  unfold octetParts at hparts
  split at hparts
  · next hlen =>
    cases hparts
    have htext : IsPlain (List.intercalate ['.'] (Text.fields '.' t)) := by
      rwa [Text.intercalate_fields]
    obtain ⟨gs, hgs, rfl⟩ :=
      (readSegments_eq_ok_iff (isPlain_of_mem_intercalate htext)).1 hspans
    refine ⟨.octets gs (by rw [← hlen, ← hgs, List.length_map]), ?_, rfl⟩
    rw [ValueForm.text, hgs, Text.intercalate_fields]
  · cases hparts

/-- Among plain texts, the texts of patterns of values are all that read as segment patterns. -/
theorem readSegmentPattern_eq_ok_iff (h : IsPlain t) {q : Pattern} :
    readSegmentPattern t = .ok q ↔
      ∃ form : ValueForm, form.text = t ∧
        q = .segments form.version (form.values.map Span.exact) := by
  constructor
  · intro hread
    unfold readSegmentPattern at hread
    split at hread
    · split at hread
      · cases hread
      · next parts hparts =>
        split at hread
        · cases hread
        · next spans hspans =>
          cases hread
          exact exists_form_of_groupParts h hparts hspans
    · split at hread
      · cases hread
      · next parts hparts =>
        split at hread
        · cases hread
        · next spans hspans =>
          cases hread
          exact exists_form_of_octetParts h hparts hspans
  · rintro ⟨form, rfl, rfl⟩
    exact form.readSegmentPattern_text

end Pattern

/-! ### Reading an address -/

namespace ValueForm

/-- Values that are spelled as in an address are read as this address. -/
theorem read?_text {form : ValueForm} (h : form.IsLiteral) :
    Inet.read? form.text = some form.address := by
  have hgroups : ∀ {gs : List (Spelling .v6)}, (∀ g ∈ gs, g.lineFeed = false) →
      (gs.map Spelling.text).mapM Inet.readGroup? = some (gs.map Spelling.value) := by
    intro gs hgs
    rw [mapM_eq_some_iff, List.forall₂_map_left_iff, List.forall₂_map_right_iff, List.forall₂_same]
    intro g hg
    have hlen : g.numeral.text.length ≤ 4 := g.numeral.length_le
    rw [Spelling.text_of_lineFeed (hgs g hg), Inet.readGroup?, if_neg (Nat.not_lt.2 hlen)]
    exact g.numeral.reads
  cases form with
  | octets gs count =>
    have htext : gs.map Spelling.text = (gs.map Spelling.value).map Text.decimal := by
      rw [List.map_map]
      exact List.map_congr_left h
    have hlen : (gs.map Spelling.value).length = 4 := by rw [List.length_map, count]
    have hread := Inet.readOctets?_intercalate hlen (values_lt (octets gs count))
    rw [text, htext, Inet.read?, Inet.readV4?, hread]
    rfl
  | groups gs count =>
    have hread := Inet.readGroups?_intercalate (by rw [List.length_map, count]) (hgroups h)
    exact Inet.read?_of_readGroups? hread
  | gap high low count =>
    have hhigh := hgroups fun g hg => h g (List.mem_append_left _ hg)
    have hlow := hgroups fun g hg => h g (List.mem_append_right _ hg)
    have hread := Inet.readGroups?_gapText (by simpa using count) hhigh hlow
    rw [List.length_map, List.length_map] at hread
    exact Inet.read?_of_readGroups? hread

/-- The reader of addresses takes only values that are spelled as in an address. -/
theorem isLiteral_of_read? {form : ValueForm} {x : Inet} (hplain : Pattern.IsPlain form.text)
    (h : Inet.read? form.text = some x) : form.IsLiteral := by
  have hpercent : '%' ∉ form.text := hplain '%' (by simp)
  have hfeed : '\n' ∉ form.text :=
    Inet.notMem_of_isLiteralChar (Inet.isLiteralChar_of_read? h hpercent) (by decide)
  have hline : ∀ {v : Version} (g : Spelling v), (∀ c ∈ g.text, c ∈ form.text) →
      g.lineFeed = false := by
    intro v g hsub
    rw [g.lineFeed_eq_false_iff]
    exact fun hm => hfeed (hsub _ hm)
  have hpart : ∀ {v : Version} {gs : List (Spelling v)} {g : Spelling v} {sep : Char}, g ∈ gs →
      ∀ c ∈ g.text, c ∈ List.intercalate [sep] (gs.map Spelling.text) := fun hg c hc =>
    Text.mem_intercalate_of_mem (List.mem_map_of_mem hg) hc
  cases form with
  | octets gs count =>
    intro g hg
    obtain ⟨hcolon, hfields⟩ := fields_octets count
    rcases Inet.read?_cases h with ⟨n, hn, -⟩ | ⟨n, hn, -⟩ | ⟨address, n, zone, ht, -, -⟩
    · obtain ⟨-, ns, hns, -⟩ := Inet.readOctets?_eq_some_iff.1 hn
      rw [text, hfields] at hns
      obtain ⟨m, hm⟩ := exists_of_mapM_eq_some hns (List.mem_map_of_mem hg)
      have hvalue : m = g.value := by
        have hdigits := Text.numeral?_mono (fun c d => Text.digit?_of_asciiDigit?)
          (Inet.numeral?_of_readOctet? hm).1
        rw [Spelling.text_of_lineFeed (hline g (hpart hg))] at hdigits
        exact Option.some.inj (hdigits.symm.trans g.numeral.reads)
      rw [← hvalue]
      exact Inet.decimal_of_readOctet? hm
    · exact absurd (Inet.colon_mem_of_readGroups? hn) hcolon
    · rw [ht] at hpercent
      simp at hpercent
  | groups gs count =>
    intro g hg
    exact hline g (hpart hg)
  | gap high low count =>
    intro g hg
    apply hline
    intro c hc
    show c ∈ List.intercalate [':'] (high.map Spelling.text) ++
      ':' :: ':' :: List.intercalate [':'] (low.map Spelling.text)
    rcases List.mem_append.1 hg with hg | hg
    · exact List.mem_append_left _ (hpart hg c hc)
    · exact List.mem_append_right _ (by simp [hpart hg c hc])

/-- A pattern of values is the text of an address just when its values are spelled as in one. -/
theorem isLiteral_iff {form : ValueForm} (hplain : Pattern.IsPlain form.text) :
    form.IsLiteral ↔ (Inet.read? form.text).isSome = true := by
  constructor
  · intro h
    rw [read?_text h]
    rfl
  · intro h
    obtain ⟨x, hx⟩ := Option.isSome_iff_exists.1 h
    exact isLiteral_of_read? hplain hx

end ValueForm

/-! ### Patterns and addresses -/

namespace Pattern

variable {t : Text}

theorem IsPlain.trim (h : IsPlain t) : IsPlain (Text.trim t) := fun c hc hm =>
  h c hc (Text.mem_of_mem_trim hm)

/-- A plain text is read as an address, or else as a pattern of values. -/
theorem read_eq_ok_iff_of_isPlain (h : IsPlain t) {q : Pattern} :
    read t = .ok q ↔
      match Inet.read? (Text.trim t) with
      | some x => q = single x
      | none => readSegmentPattern (Text.trim t) = .ok q := by
  have hplain := h.trim
  have hslash : '/' ∉ Text.trim t := hplain '/' (by simp)
  have hliteral : readLiteral? (Text.trim t) = Inet.read? (Text.trim t) := by
    rw [readLiteral?, Text.before_of_notMem (hplain '%' (by simp))]
  have hends : readEnds? (Text.trim t) = none := by
    rw [readEnds?, Text.fields_of_notMem (hplain '-' (by simp))]
  have hsegments : Text.before '%' (Text.trim t) = Text.trim t :=
    Text.before_of_notMem (hplain '%' (by simp))
  unfold read
  split
  · next hnil =>
    rw [hnil]
    simp [show Inet.read? [] = none by decide,
      show readSegmentPattern [] = .error (.octets []) by rfl]
  · rw [readTrimmed, if_neg hslash, hliteral]
    cases Inet.read? (Text.trim t) with
    | none => simp only [hends, hsegments]
    | some x => simp [eq_comm]

theorem isPattern_iff_exists_read : isPattern t = true ↔ ∃ q, read t = .ok q := by
  unfold isPattern
  cases read t with
  | ok q => simp [Except.isOk, Except.toBool]
  | error e => simp [Except.isOk, Except.toBool]

/-- A plain text is a pattern just when it is the text of an address or of a pattern of values. -/
theorem isPattern_iff_of_isPlain (h : IsPlain t) :
    isPattern t = true ↔
      (Inet.read? (Text.trim t)).isSome = true ∨ ∃ form : ValueForm, form.text = Text.trim t := by
  rw [isPattern_iff_exists_read]
  simp only [read_eq_ok_iff_of_isPlain h, readSegmentPattern_eq_ok_iff h.trim]
  cases Inet.read? (Text.trim t) with
  | some x => simp
  | none => simp

/-- An address without a percent sign in its text has no zone. -/
theorem bare_of_read? {x : Inet} (h : Inet.read? t = some x) (hp : '%' ∉ t) : x.bare = x := by
  rcases Inet.read?_cases h with ⟨n, -, rfl⟩ | ⟨n, -, rfl⟩ | ⟨address, n, zone, rfl, -, -⟩
  · rfl
  · rfl
  · simp at hp

/-- A pattern of values selects the address with these values, be it read as an address or not. -/
theorem selects_of_valueForm (h : IsPlain t) {form : ValueForm} (hform : form.text = Text.trim t)
    (x : Inet) : selects t x = true ↔ x.bare = form.address := by
  have hplain : IsPlain form.text := by
    rw [hform]
    exact h.trim
  cases hy : Inet.read? (Text.trim t) with
  | some y =>
    have hliteral : form.IsLiteral := by
      rw [← hform] at hy
      exact ValueForm.isLiteral_of_read? hplain hy
    have haddress := ValueForm.read?_text hliteral
    rw [hform, hy] at haddress
    rw [← selects_trim, selects_of_read? hy, Option.some.inj haddress, form.bare_address]
  | none =>
    have hread : read t = .ok (.segments form.version (form.values.map Span.exact)) := by
      rw [read_eq_ok_iff_of_isPlain h, hy]
      show readSegmentPattern (Text.trim t) = _
      rw [← hform, form.readSegmentPattern_text]
    rw [selects, hread]
    exact form.covers_iff x

/-- A plain text is a pattern without being the text of an address just when it is a pattern of
values one of which is spelled as in no address. Nothing else comes between patterns and addresses,
and however its values are spelled, a plain pattern selects the address with these values alone. -/
theorem agreesWithReader_iff (h : IsPlain t) :
    (AgreesWithReader t ↔ ∀ form : ValueForm, form.text = Text.trim t → form.IsLiteral) ∧
      (isPattern t = true ↔ (Inet.read? (Text.trim t)).isSome = true ∨
        ∃ form : ValueForm, form.text = Text.trim t) ∧
      ∀ form : ValueForm, form.text = Text.trim t → ∀ x,
        selects t x = true ↔ x.bare = form.address := by
  have hliteral : ∀ form : ValueForm, form.text = Text.trim t →
      (form.IsLiteral ↔ (Inet.read? (Text.trim t)).isSome = true) := by
    intro form hform
    rw [← hform]
    apply ValueForm.isLiteral_iff
    rw [hform]
    exact h.trim
  refine ⟨?_, isPattern_iff_of_isPlain h, fun form hform => selects_of_valueForm h hform⟩
  constructor
  · rintro ⟨hpattern, -⟩ form hform
    rw [hliteral form hform, ← hpattern, isPattern_iff_of_isPlain h]
    exact .inr ⟨form, hform⟩
  · intro hall
    constructor
    · rw [isPattern_iff_of_isPlain h]
      constructor
      · rintro (hread | ⟨form, hform⟩)
        · exact hread
        · exact (hliteral form hform).1 (hall form hform)
      · exact .inl
    · intro x hx y
      rw [← selects_trim, selects_of_read? hx, bare_of_read? hx (h.trim '%' (by simp))]

/-- The octets `010`, `0`, `0` and `5`. -/
def padded : ValueForm :=
  .octets [⟨⟨"010".toList, 10, by decide, by decide⟩, by decide, false⟩, .zero, .zero,
    ⟨.ofNat 5 (by decide), by decide, false⟩] rfl

/-- Octets with a zero in front are a pattern of values that are spelled as in no address, so the
pattern and the reader do not agree. It selects the address `10.0.0.5` alone. -/
theorem agreesWithReader_iff_padded :
    padded.text = "010.0.0.5".toList ∧ ¬ padded.IsLiteral ∧
      ¬ AgreesWithReader "010.0.0.5".toList ∧ isPattern "010.0.0.5".toList = true ∧
        ∀ x, selects "010.0.0.5".toList x = true ↔ x.bare = .v4 0x0a000005 := by
  obtain ⟨hagrees, hpattern, hselects⟩ :=
    agreesWithReader_iff (show IsPlain "010.0.0.5".toList by decide)
  have htext : padded.text = "010.0.0.5".toList := by decide
  have htrim : Text.trim "010.0.0.5".toList = "010.0.0.5".toList := by decide +kernel
  have hliteral : ¬ padded.IsLiteral := fun h => absurd (h _ List.mem_cons_self) (by decide)
  have haddress : padded.address = .v4 0x0a000005 := by decide
  rw [htrim] at hagrees hpattern hselects
  refine ⟨htext, hliteral, fun h => hliteral (hagrees.1 h padded htext),
    hpattern.2 (.inr ⟨padded, htext⟩), fun x => ?_⟩
  rw [hselects padded htext x, haddress]

theorem not_agreesWithReader_padded : ¬ AgreesWithReader "010.0.0.5".toList := by
  have hpattern : isPattern "010.0.0.5".toList = true := by decide +kernel
  have hread : Inet.read? (Text.trim "010.0.0.5".toList) = none := by decide +kernel
  rintro ⟨h, -⟩
  rw [hread] at h
  cases h.1 hpattern

end Pattern

end MemberAddress
