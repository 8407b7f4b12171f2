import MemberAddress.Proofs.PatternForms
import MemberAddress.Proofs.Printing

/-!
# Zones in patterns

A zone after an address of a pattern is ignored, with one exception. A text is cut at its first
percent sign before it is taken apart at a hyphen, so a range with a zone after its first address is
read as that one address.

* `ZonedForm` is a pattern with zones as data, `ZonedForm.text` its text and `ZonedForm.bareText` the
  text without the zones;
* `Pattern.selects_append_zone` drops a zone at the end of a text, `Pattern.selects_network_zone` one
  before the length of a prefix, and `Pattern.selects_range_firstZone` reads the exception;
* `Pattern.sameSelection_zoned` says which patterns keep their meaning.
-/

namespace MemberAddress

/-! ### Zones as data -/

/-- A zone that may stand in a pattern: it has no hyphen and no blanks. -/
structure ZoneSuffix extends Zone where
  hyphen_notMem : '-' ∉ text
  not_isBlank : ∀ c ∈ text, Text.isBlank c = false

namespace ZoneSuffix

/-- The text of a zone with its percent sign, if there is a zone. -/
def suffix : Option ZoneSuffix → Text
  | none => []
  | some zone => '%' :: zone.text

theorem slash_notMem_suffix (zone : Option ZoneSuffix) : '/' ∉ suffix zone := by
  cases zone with
  | none => simp [suffix]
  | some zone => simp [suffix, zone.slash_notMem]

theorem hyphen_notMem_suffix (zone : ZoneSuffix) : '-' ∉ '%' :: zone.text := by
  simp [zone.hyphen_notMem]

end ZoneSuffix

/-- The text of an address of groups, without a zone. -/
structure V6Text extends RangeEnd where
  version : address.version = .v6

namespace V6Text

/-- An address of groups without a zone is read as a number. -/
theorem exists_number (a : V6Text) :
    ∃ n, Inet.readGroups? a.text = some n ∧ a.address = .v6 (BitVec.ofNat 128 n) none := by
  rcases Inet.read?_cases a.reads with ⟨n, -, hx⟩ | ⟨n, hn, hx⟩ | ⟨address, n, zone, ht, -, -⟩
  · have hv := a.version
    rw [hx] at hv
    cases hv
  · exact ⟨n, hn, hx⟩
  · have hbare := a.bare
    simp [ht] at hbare

end V6Text

/-- A text with neither a zone nor a slash and with no blank at its end. Patterns of segments are such
texts, in every spelling. -/
structure PlainText where
  text : Text
  percent_notMem : '%' ∉ text
  slash_notMem : '/' ∉ text
  not_isBlank_last : ∀ c ∈ text.getLast?, Text.isBlank c = false

namespace PlainText

/-- The text of an address, as one to which a zone can be added. -/
def ofV6 (a : V6Text) : PlainText where
  text := a.text
  percent_notMem := a.bare
  slash_notMem := a.notMem (by decide)
  not_isBlank_last := fun c hc =>
    Inet.isBlank_of_isLiteralChar (a.isLiteralChar c (List.mem_of_getLast? hc))

/-- The text of a range without zones, as one to which a zone can be added. -/
def ofRange (first last : V6Text) (before after : Blanks) : PlainText where
  text := first.text ++ before.text ++ '-' :: (after.text ++ last.text)
  percent_notMem := by
    simp [first.bare, last.bare, before.notMem (c := '%') (by decide),
      after.notMem (c := '%') (by decide)]
  slash_notMem := by
    simp [first.notMem (c := '/') (by decide), last.notMem (c := '/') (by decide),
      before.notMem (c := '/') (by decide), after.notMem (c := '/') (by decide)]
  not_isBlank_last := by
    intro c hc
    rw [← List.cons_append, ← List.append_assoc, List.getLast?_append_of_ne_nil _ last.ne_nil] at hc
    exact Inet.isBlank_of_isLiteralChar (last.isLiteralChar c (List.mem_of_getLast? hc))

end PlainText

/-- A pattern of groups with zones: after an address, after the last segment, after either end of a
range, or before the slash of a network. -/
inductive ZonedForm
  | literal (a : V6Text) (zone : ZoneSuffix)
  | segments (t : PlainText) (zone : ZoneSuffix)
  | range (first last : V6Text) (before after : Blanks) (firstZone lastZone : Option ZoneSuffix)
  | network (start : V6Text) (zone : ZoneSuffix) (length : Text)

namespace ZonedForm

/-- The text of a pattern with its zones. -/
def text : ZonedForm → Text
  | literal a zone => a.text ++ '%' :: zone.text
  | segments t zone => t.text ++ '%' :: zone.text
  | range first last before after firstZone lastZone =>
    first.text ++ ZoneSuffix.suffix firstZone ++ before.text ++
      '-' :: (after.text ++ last.text ++ ZoneSuffix.suffix lastZone)
  | network start zone length => start.text ++ '%' :: zone.text ++ '/' :: length

/-- The text of a pattern without its zones. -/
def bareText : ZonedForm → Text
  | literal a _ => a.text
  | segments t _ => t.text
  | range first last before after _ _ =>
    first.text ++ before.text ++ '-' :: (after.text ++ last.text)
  | network start _ length => start.text ++ '/' :: length

/-- Whether the zones of a pattern can be dropped: the first end of a range has none, or the range
is one address anyhow. -/
def IgnoresZones : ZonedForm → Prop
  | range first last _ _ firstZone _ =>
    firstZone = none ∨ first.address.number = last.address.number
  | _ => True

end ZonedForm

namespace Pattern

variable {s t : Text} {p : Pattern}

/-- Two patterns select the same addresses, and the texts of the same addresses. -/
def SameSelection (s t : Text) : Prop :=
  (∀ x, selects s x = selects t x) ∧ ∀ a, selectsText s a = selectsText t a

/-- The texts follow from the addresses. -/
theorem sameSelection_iff : SameSelection s t ↔ ∀ x, selects s x = selects t x := by
  refine ⟨fun h => h.1, fun h => ⟨h, fun a => ?_⟩⟩
  unfold selectsText
  split
  · exact h _
  · rfl

/-! ### When two texts select alike -/

theorem read_eq_ok_iff : read t = .ok p ↔ Text.trim t ≠ [] ∧ readTrimmed (Text.trim t) = .ok p := by
  unfold read
  split
  · next h => simp [h]
  · next h => simp [h]

/-- Texts that are read as the same pattern select alike, whatever is wrong with them otherwise. -/
theorem selects_of_read_iff (h : ∀ p, read s = .ok p ↔ read t = .ok p) (x : Inet) :
    selects s x = selects t x := by
  unfold selects
  cases hs : read s with
  | ok p => rw [(h p).1 hs]
  | error e =>
    cases ht : read t with
    | ok p =>
      rw [(h p).2 ht] at hs
      cases hs
    | error e' => rfl

theorem selects_append_append (pre post : Blanks) (t : Text) (x : Inet) :
    selects (pre.text ++ t ++ post.text) x = selects t x := by
  rw [← selects_trim, Text.trim_append_append pre.isBlank post.isBlank, selects_trim]

/-! ### A zone at the end -/

/-- Blanks are taken off in front of a zone only, and there is none to take off behind. -/
theorem trim_append_zone (ht : ∀ c ∈ t.getLast?, Text.isBlank c = false) (zone : ZoneSuffix) :
    Text.trim (t ++ '%' :: zone.text) = Text.trim t ++ '%' :: zone.text := by
  have hzone : Text.trimEnd zone.text = zone.text :=
    Text.trimEnd_eq_self fun c hc => zone.not_isBlank c (List.mem_of_getLast? hc)
  have hstart : Text.trimStart (t ++ '%' :: zone.text) =
      Text.trimStart t ++ '%' :: zone.text := by
    unfold Text.trimStart
    rw [List.dropWhile_append]
    split
    · next h =>
      rw [List.isEmpty_iff.1 h, List.nil_append]
      exact Text.trimStart_cons (by decide)
    · rfl
  rw [Text.trim, hstart, Text.trimEnd_append_cons (by decide), hzone, Text.trim_eq_trimStart ht]

theorem readLiteral?_append_zone (hp : '%' ∉ t) (zone : ZoneSuffix) :
    readLiteral? (t ++ '%' :: zone.text) = readLiteral? t := by
  rw [readLiteral?, readLiteral?, Text.before_append hp, Text.before_of_notMem hp]

/-- A zone at the end is ignored by each side of a hyphen, so a text has the same ends. -/
theorem readEnds?_append_zone (hp : '%' ∉ t) (ht : ∀ c ∈ t.getLast?, Text.isBlank c = false)
    (zone : ZoneSuffix) : readEnds? (t ++ '%' :: zone.text) = readEnds? t := by
  have hzone := zone.hyphen_notMem_suffix
  by_cases hm : '-' ∈ t
  · obtain ⟨a, b, rfl, ha⟩ := List.eq_append_cons_of_mem hm
    have hpb : '%' ∉ b := fun h => hp (by simp [h])
    have hb : ∀ c ∈ b.getLast?, Text.isBlank c = false := fun c hc =>
      ht c (Text.mem_getLast?_of_suffix ((List.suffix_cons '-' b).trans (List.suffix_append a _)) hc)
    rw [List.append_assoc, List.cons_append]
    by_cases hm' : '-' ∈ b
    · -- with a second hyphen neither text has two ends
      obtain ⟨b₁, b₂, rfl, hb₁⟩ := List.eq_append_cons_of_mem hm'
      obtain ⟨f, fs, hf⟩ := List.exists_cons_of_ne_nil (Text.pieces_ne_nil (· == '-') b₂)
      obtain ⟨g, gs, hg⟩ := List.exists_cons_of_ne_nil
        (Text.pieces_ne_nil (· == '-') (b₂ ++ '%' :: zone.text))
      have hf : Text.fields '-' b₂ = f :: fs := hf
      have hg : Text.fields '-' (b₂ ++ '%' :: zone.text) = g :: gs := hg
      rw [List.append_assoc, List.cons_append]
      simp only [readEnds?, Text.fields_append ha, Text.fields_append hb₁, hf, hg]
    · have hlast : '-' ∉ b ++ '%' :: zone.text := by
        rw [List.mem_append, not_or]
        exact ⟨hm', hzone⟩
      simp only [readEnds?, Text.fields_append ha, Text.fields_of_notMem hm',
        Text.fields_of_notMem hlast, trim_append_zone hb,
        readLiteral?_append_zone fun hm => hpb (Text.mem_of_mem_trim hm)]
  · have hnone : '-' ∉ t ++ '%' :: zone.text := by
      rw [List.mem_append, not_or]
      exact ⟨hm, hzone⟩
    simp only [readEnds?, Text.fields_of_notMem hm, Text.fields_of_notMem hnone]

/-- A text is read alike with and without a zone at its end. -/
theorem readTrimmed_append_zone_ok_iff (hp : '%' ∉ t) (hslash : '/' ∉ t)
    (ht : ∀ c ∈ t.getLast?, Text.isBlank c = false) (zone : ZoneSuffix) :
    readTrimmed (t ++ '%' :: zone.text) = .ok p ↔ readTrimmed t = .ok p := by
  have hslash' : '/' ∉ t ++ '%' :: zone.text := by simp [hslash, zone.slash_notMem]
  rw [readTrimmed, readTrimmed, if_neg hslash, if_neg hslash', readLiteral?_append_zone hp,
    readEnds?_append_zone hp ht, Text.before_append hp, Text.before_of_notMem hp]
  cases readLiteral? t with
  | some x => rfl
  | none =>
    cases readEnds? t with
    | none => rfl
    | some ends =>
      -- ends of two versions or out of order are wrong in either text
      dsimp only
      split
      · simp
      · rfl

/-- A zone at the end of a text without another zone is ignored. -/
theorem selects_append_zone (t : PlainText) (zone : ZoneSuffix) (x : Inet) :
    selects (t.text ++ '%' :: zone.text) x = selects t.text x := by
  have hp : '%' ∉ Text.trim t.text := fun hm => t.percent_notMem (Text.mem_of_mem_trim hm)
  have hslash : '/' ∉ Text.trim t.text := fun hm => t.slash_notMem (Text.mem_of_mem_trim hm)
  have hlast : ∀ c ∈ (Text.trim t.text).getLast?, Text.isBlank c = false := by
    rw [Text.trim_eq_trimStart t.not_isBlank_last]
    exact fun c hc => t.not_isBlank_last c
      (Text.mem_getLast?_of_suffix (List.dropWhile_suffix _) hc)
  refine selects_of_read_iff (fun p => ?_) x
  rw [read_eq_ok_iff, read_eq_ok_iff, trim_append_zone t.not_isBlank_last,
    readTrimmed_append_zone_ok_iff hp hslash hlast]
  by_cases hne : Text.trim t.text = []
  · -- nothing but a zone is no pattern, as nothing at all is none
    have hempty : readTrimmed [] = .error (.octets []) := rfl
    simp [hne, hempty]
  · simp [hne]

/-! ### A zone before the length of a prefix -/

/-- An address of groups, a slash and any text: the text must be a length. -/
theorem read?_network {y : Inet} (ht : Inet.read? t = some y) (hv : y.version = .v6)
    (length : Text) :
    Network.read? (t ++ '/' :: length) =
      (if '/' ∈ length then none else Network.readLength? 128 length).map (Network.of y) := by
  have h4 : Inet.readV4? t = none := by
    by_contra h
    obtain ⟨z, hz⟩ := Option.ne_none_iff_exists'.1 h
    obtain rfl : z = y := by simpa [Inet.read?, hz] using ht
    obtain ⟨n, -, rfl⟩ := Option.map_eq_some_iff.1 hz
    cases hv
  have h6 : Inet.readV6? t = some y := by simpa [Inet.read?, h4] using ht
  rw [Network.read?, Text.fields_append (Inet.slash_notMem_of_read? ht)]
  by_cases hm : '/' ∈ length
  · -- with a second slash the text has more than two fields
    obtain ⟨a, b, rfl, ha⟩ := List.eq_append_cons_of_mem hm
    obtain ⟨f, fs, hf⟩ := List.exists_cons_of_ne_nil (Text.pieces_ne_nil (· == '/') b)
    have hf : Text.fields '/' b = f :: fs := hf
    simp only [Text.fields_append ha, hf, if_pos hm, Option.map_none]
  · rw [Text.fields_of_notMem hm, if_neg hm]
    simp only [h4, h6]
    cases Network.readLength? 128 length <;> rfl

/-- The addresses that the network of an address of groups selects. -/
theorem selects_network {y : Inet} (ht : Inet.read? t = some y) (hv : y.version = .v6)
    (length : Text) (x : Inet) :
    selects (t ++ '/' :: length) x =
      (if '/' ∈ Text.trimEnd length then none
        else Network.readLength? 128 (Text.trimEnd length)).any
          fun n => (network (.of y n)).covers x := by
  have htrim : Text.trim (t ++ '/' :: length) = t ++ '/' :: Text.trimEnd length := by
    obtain ⟨c, rest, rfl, hc⟩ := Inet.exists_cons_of_read? ht
    rw [Text.trim, List.cons_append, Text.trimStart_cons (Inet.isBlank_of_isLiteralChar hc),
      ← List.cons_append, Text.trimEnd_append_cons (by decide)]
  rw [selects, read, htrim, if_neg (by simp), readTrimmed, if_pos (by simp), read?_network ht hv]
  generalize (if '/' ∈ Text.trimEnd length then none
    else Network.readLength? 128 (Text.trimEnd length)) = n?
  cases n? <;> rfl

/-- The network of an address does not depend on the zone of the address. -/
theorem covers_network_congr {y z : Inet} (h : y.bare = z.bare) (n : Nat) (x : Inet) :
    (network (.of y n)).covers x = (network (.of z n)).covers x := by
  obtain ⟨hv, hn⟩ := Inet.bare_eq_iff.1 h
  simp only [covers, version, Network.contains_of, Network.version_of, hv, hn]

/-- A zone before the length of a prefix is ignored. -/
theorem selects_network_zone (start : V6Text) (zone : ZoneSuffix) (length : Text) (x : Inet) :
    selects (start.text ++ '%' :: zone.text ++ '/' :: length) x =
      selects (start.text ++ '/' :: length) x := by
  obtain ⟨n, hn, ha⟩ := start.exists_number
  have hzoned := Inet.read?_append_zone hn zone.toZone
  rw [selects_network hzoned rfl, selects_network start.reads start.version, ha]
  congr 1
  funext m
  exact covers_network_congr (y := .v6 _ (some zone.toZone)) (z := .v6 _ none) rfl m x

/-! ### A zone after the first end of a range -/

/-- What follows a zone after an address is not read, unless it is the length of a prefix. -/
theorem read_append_percent (a : RangeEnd) {rest : Text} (hslash : '/' ∉ rest) :
    read (a.text ++ '%' :: rest) = .ok (single a.address) := by
  have htrim : Text.trim (a.text ++ '%' :: rest) = a.text ++ '%' :: Text.trimEnd rest := by
    obtain ⟨c, more, ha, hc⟩ := Inet.exists_cons_of_read? a.reads
    rw [ha, Text.trim, List.cons_append, Text.trimStart_cons (Inet.isBlank_of_isLiteralChar hc),
      ← List.cons_append, Text.trimEnd_append_cons (by decide)]
  have hslash' : '/' ∉ a.text ++ '%' :: Text.trimEnd rest := by
    have hrest : '/' ∉ Text.trimEnd rest := fun hm =>
      hslash ((List.rdropWhile_prefix _ _).subset hm)
    simp [a.notMem (c := '/') (by decide), hrest]
  have hlit : readLiteral? (a.text ++ '%' :: Text.trimEnd rest) = some a.address := by
    rw [readLiteral?, Text.before_append a.bare, a.reads]
  rw [read, htrim, if_neg (by simp), readTrimmed, if_neg hslash', hlit]

/-- A range without zones selects the addresses between its ends. -/
theorem selects_range (first last : V6Text) (before after : Blanks) (x : Inet) :
    selects (first.text ++ before.text ++ '-' :: (after.text ++ last.text)) x = true ↔
      x.version = .v6 ∧ first.address.number ≤ x.number ∧ x.number ≤ last.address.number := by
  rw [selects, PatternForm.read_range, first.version, last.version]
  by_cases hlt : last.address.number < first.address.number
  · rw [if_pos (.inr hlt)]
    constructor
    · intro h
      cases h
    · rintro ⟨-, h₁, h₂⟩
      omega
  · rw [if_neg (by simp [hlt])]
    simp only [covers, version, Bool.and_eq_true, beq_iff_eq, decide_eq_true_eq]

/-- A range with a zone after its first end selects this one address. -/
theorem selects_range_firstZone (first last : V6Text) (before after : Blanks) (zone : ZoneSuffix)
    (lastZone : Option ZoneSuffix) (x : Inet) :
    selects (ZonedForm.range first last before after (some zone) lastZone).text x = true ↔
      x.version = .v6 ∧ x.number = first.address.number := by
  have htext : (ZonedForm.range first last before after (some zone) lastZone).text =
      first.text ++ '%' :: (zone.text ++ before.text ++
        '-' :: (after.text ++ last.text ++ ZoneSuffix.suffix lastZone)) := by
    simp [ZonedForm.text, ZoneSuffix.suffix]
  have hslash : '/' ∉ zone.text ++ before.text ++
      '-' :: (after.text ++ last.text ++ ZoneSuffix.suffix lastZone) := by
    simp [zone.slash_notMem, before.notMem (c := '/') (by decide),
      after.notMem (c := '/') (by decide), last.notMem (c := '/') (by decide),
      ZoneSuffix.slash_notMem_suffix]
  rw [htext, selects, read_append_percent first.toRangeEnd hslash]
  show (single first.address).covers x = true ↔ _
  rw [covers_single, Inet.bare_eq_iff, first.version]

/-- A range keeps its meaning under a zone after its first end only if it is that one address. -/
theorem sameSelection_range_firstZone_iff (first last : V6Text) (before after : Blanks)
    (zone : ZoneSuffix) (lastZone : Option ZoneSuffix) :
    SameSelection (ZonedForm.range first last before after (some zone) lastZone).text
        (first.text ++ before.text ++ '-' :: (after.text ++ last.text)) ↔
      first.address.number = last.address.number := by
  rw [sameSelection_iff]
  constructor
  · intro hsame
    -- the two ends tell the patterns apart
    have hends (x : Inet) (hv : x.version = .v6) : x.number = first.address.number ↔
        first.address.number ≤ x.number ∧ x.number ≤ last.address.number := by
      have h := Bool.eq_iff_iff.1 (hsame x)
      rw [selects_range_firstZone, selects_range] at h
      simpa [hv] using h
    have hfirst := hends first.address first.version
    have hlast := hends last.address last.version
    omega
  · intro heq x
    rw [Bool.eq_iff_iff]
    rw [selects_range_firstZone, selects_range]
    refine and_congr_right fun _ => ?_
    omega

/-! ### Every form -/

/-- A pattern of groups with zones selects what it selects without them, with one exception: a range
with a zone after its first end, unless it is one address anyhow. Blanks around the pattern do not
matter. -/
theorem sameSelection_zoned (form : ZonedForm) (pre post : Blanks) :
    SameSelection (pre.text ++ form.text ++ post.text) (pre.text ++ form.bareText ++ post.text) ↔
      form.IgnoresZones := by
  rw [sameSelection_iff]
  simp only [selects_append_append]
  rw [← sameSelection_iff]
  cases form with
  | literal a zone =>
    exact iff_of_true (sameSelection_iff.2 (selects_append_zone (.ofV6 a) zone)) trivial
  | segments t zone =>
    exact iff_of_true (sameSelection_iff.2 (selects_append_zone t zone)) trivial
  | network start zone length =>
    exact iff_of_true (sameSelection_iff.2 (selects_network_zone start zone length)) trivial
  | range first last before after firstZone lastZone =>
    cases firstZone with
    | some zone =>
      rw [ZonedForm.bareText, sameSelection_range_firstZone_iff, ZonedForm.IgnoresZones]
      simp
    | none =>
      refine iff_of_true (sameSelection_iff.2 fun x => ?_) (.inl rfl)
      cases lastZone with
      | none => simp [ZonedForm.text, ZonedForm.bareText, ZoneSuffix.suffix]
      | some zone =>
        have h := selects_append_zone (.ofRange first last before after) zone x
        simpa [ZonedForm.text, ZonedForm.bareText, ZoneSuffix.suffix, PlainText.ofRange] using h

/-- With the zone `eth0` after its first end, the range of the addresses `fe80::1` to `fe80::9` does
not select the address `fe80::5` any more. -/
theorem not_sameSelection_firstZone :
    ¬ SameSelection "fe80::1%eth0-fe80::9".toList "fe80::1-fe80::9".toList := by
  intro h
  have hzoned : selectsText "fe80::1%eth0-fe80::9".toList "fe80::5".toList = false := by
    decide +kernel
  have hbare : selectsText "fe80::1-fe80::9".toList "fe80::5".toList = true := by
    decide +kernel
  have hsame := h.2 "fe80::5".toList
  rw [hzoned, hbare] at hsame
  cases hsame

end Pattern

end MemberAddress
