import MemberAddress.Pattern.Reader
import MemberAddress.Proofs.Text

/-!
# The texts of addresses

An address without a zone is written in hexadecimal digits, colons and points alone
(`Inet.isLiteralChar_of_read?`). So it has no blanks around it and none of the signs of a pattern,
and read as a pattern it is the pattern of that one address (`Pattern.read_of_read?`).
-/

namespace MemberAddress

/-! ### Numerals -/

namespace Text

variable {base : Nat} {digit? : Char → Option Nat} {t : Text} {n : Nat}

theorem isSome_of_continueNumeral? {value : Nat}
    (h : continueNumeral? base digit? value t = some n) : ∀ c ∈ t, (digit? c).isSome = true := by
  induction t generalizing value with
  | nil => simp
  | cons c rest ih =>
    unfold continueNumeral? at h
    split at h
    · cases h
    · next d hd =>
      intro c' hc
      rcases List.mem_cons.1 hc with rfl | hc
      · simp [hd]
      · exact ih h c' hc

theorem isSome_of_numeral? (h : numeral? base digit? t = some n) :
    ∀ c ∈ t, (digit? c).isSome = true := by
  unfold numeral? at h
  split at h
  · cases h
  · exact isSome_of_continueNumeral? h

theorem ne_nil_of_numeral? (h : numeral? base digit? t = some n) : t ≠ [] := by
  rintro rfl
  cases h

theorem exists_continueNumeral? (h : ∀ c ∈ t, (digit? c).isSome = true) (value : Nat) :
    ∃ n, continueNumeral? base digit? value t = some n := by
  induction t generalizing value with
  | nil => exact ⟨value, rfl⟩
  | cons c rest ih =>
    obtain ⟨d, hd⟩ := Option.isSome_iff_exists.1 (h c List.mem_cons_self)
    obtain ⟨n, hn⟩ := ih (fun c' hc' => h c' (List.mem_cons_of_mem c hc')) (value * base + d)
    exact ⟨n, by simp only [continueNumeral?, hd, hn]⟩

/-- A run of digits is a numeral. -/
theorem exists_numeral? (hne : t ≠ []) (h : ∀ c ∈ t, (digit? c).isSome = true) :
    ∃ n, numeral? base digit? t = some n := by
  rw [numeral?, if_neg hne]
  exact exists_continueNumeral? h 0

end Text

/-- Reading all texts of a list is reading each. -/
theorem mapM_eq_some_iff {α β : Type} {f : α → Option β} {xs : List α} {ys : List β} :
    xs.mapM f = some ys ↔ List.Forall₂ (fun x y => f x = some y) xs ys := by
  induction xs generalizing ys with
  | nil => simp [eq_comm]
  | cons x xs ih =>
    rw [List.mapM_cons]
    constructor
    · intro h
      obtain ⟨y, hy, h⟩ := Option.bind_eq_some_iff.1 h
      obtain ⟨ys', hys, h⟩ := Option.bind_eq_some_iff.1 h
      cases h
      exact .cons hy (ih.1 hys)
    · intro h
      cases h with
      | cons hy hys => simp [hy, ih.2 hys]

theorem exists_of_mapM_eq_some {α β : Type} {f : α → Option β} {xs : List α} {ys : List β}
    (h : xs.mapM f = some ys) {x : α} (hx : x ∈ xs) : ∃ y, f x = some y := by
  have hf := mapM_eq_some_iff.1 h
  clear h
  induction hf with
  | nil => cases hx
  | cons hy _ ih =>
    rcases List.mem_cons.1 hx with rfl | hx
    · exact ⟨_, hy⟩
    · exact ih hx

namespace Inet

/-! ### The characters of an address -/

/-- The characters of an address without a zone. -/
def isLiteralChar (c : Char) : Bool := (Text.hexDigit? c).isSome || c == ':' || c == '.'

theorem isLiteralChar_of_hexDigit {c : Char} (h : (Text.hexDigit? c).isSome = true) :
    isLiteralChar c = true := by
  simp [isLiteralChar, h]

theorem isLiteralChar_of_asciiDigit {c : Char} (h : (Text.asciiDigit? c).isSome = true) :
    isLiteralChar c = true := by
  unfold Text.asciiDigit? at h
  split at h
  · next hc => exact isLiteralChar_of_hexDigit (by simp [Text.hexDigit?, hc])
  · cases h

theorem isBlank_of_isLiteralChar {c : Char} (h : isLiteralChar c = true) :
    Text.isBlank c = false := by
  have hall : (Text.blanks.all fun b => !isLiteralChar b) = true := by decide +kernel
  by_contra hb
  have hmem : c ∈ Text.blanks := by simpa [Text.isBlank] using hb
  have hnot := List.all_eq_true.1 hall c hmem
  rw [h] at hnot
  cases hnot

/-- A text of such characters has none of the signs of patterns and zones. -/
theorem notMem_of_isLiteralChar {t : Text} (h : ∀ c ∈ t, isLiteralChar c = true) {sign : Char}
    (hs : isLiteralChar sign = false) : sign ∉ t := by
  intro hm
  rw [h sign hm] at hs
  cases hs

theorem numeral?_of_readOctet? {t : Text} {n : Nat} (h : readOctet? t = some n) :
    Text.numeral? 10 Text.asciiDigit? t = some n ∧ t.length ≤ 3 ∧ n ≤ 255 := by
  unfold readOctet? at h
  split at h
  · cases h
  · next m hm =>
    split at h
    · cases h
    · next hbounds =>
      cases h
      exact ⟨hm, by omega, by omega⟩

/-- What it takes to be a dotted address: four parts between points that are octets. -/
theorem readOctets?_eq_some_iff {t : Text} {n : Nat} :
    readOctets? t = some n ↔
      (Text.fields '.' t).length = 4 ∧
        ∃ ns, (Text.fields '.' t).mapM readOctet? = some ns ∧ n = ofDigitsIn 256 ns := by
  unfold readOctets?
  dsimp only
  split
  · next hlen => simp [hlen, eq_comm (a := n)]
  · next hlen => simp [hlen]

theorem isLiteralChar_of_readOctets? {t : Text} {n : Nat} (h : readOctets? t = some n) :
    ∀ c ∈ t, isLiteralChar c = true := by
  intro c hc
  obtain ⟨-, ns, hns, -⟩ := readOctets?_eq_some_iff.1 h
  rcases Text.mem_fields_of_mem '.' hc with rfl | ⟨p, hp, hcp⟩
  · decide
  · obtain ⟨m, hm⟩ := exists_of_mapM_eq_some hns hp
    exact isLiteralChar_of_asciiDigit
      (Text.isSome_of_numeral? (numeral?_of_readOctet? hm).1 c hcp)

/-- The part with octets has only such characters, and the other parts stay. -/
theorem of_mem_of_spreadOctets? {parts out : List Text} (h : spreadOctets? parts = some out)
    {p : Text} (hp : p ∈ parts) : p ∈ out ∨ ∀ c ∈ p, isLiteralChar c = true := by
  unfold spreadOctets? at h
  split at h
  · cases h
    exact .inl hp
  · next last hlast =>
    split at h
    · obtain ⟨n, hn, rfl⟩ := Option.map_eq_some_iff.1 h
      obtain ⟨front, rfl⟩ := List.getLast?_eq_some_iff.1 hlast
      rcases List.mem_append.1 hp with hp | hp
      · exact .inl (List.mem_append_left _ (by rwa [List.dropLast_concat]))
      · rw [List.mem_singleton.1 hp]
        exact .inr (isLiteralChar_of_readOctets? hn)
    · cases h
      exact .inl hp

theorem mem_of_beforeGap? {parts out : List Text} (h : beforeGap? parts = some out) {p : Text}
    (hp : p ∈ parts) : p = [] ∨ p ∈ out := by
  unfold beforeGap? at h
  split at h
  · next hhead =>
    split at h
    · next hlen =>
      obtain ⟨q, rfl⟩ := List.length_eq_one_iff.1 hlen
      rw [List.mem_singleton.1 hp]
      exact .inl (by simpa using hhead)
    · cases h
  · cases h
    exact .inr hp

theorem mem_of_afterGap? {parts out : List Text} (h : afterGap? parts = some out) {p : Text}
    (hp : p ∈ parts) : p = [] ∨ p ∈ out := by
  unfold afterGap? at h
  split at h
  · next hlast =>
    split at h
    · next hlen =>
      obtain ⟨q, rfl⟩ := List.length_eq_one_iff.1 hlen
      rw [List.mem_singleton.1 hp]
      exact .inl (by simpa using hlast)
    · cases h
  · cases h
    exact .inr hp

/-- The parts with a gap between `front` and `back`, filled up. -/
theorem fillGap?_append {front back : List Text} (hf : front ≠ []) (hb : back ≠ [])
    (hnf : [] ∉ front.tail) (hnb : [] ∉ back.dropLast) :
    fillGap? (front ++ [] :: back) =
      match beforeGap? front, afterGap? back with
      | some high, some low =>
        if high.length + low.length < 8 then
          some (high ++ List.replicate (8 - (high.length + low.length)) ['0'] ++ low)
        else none
      | _, _ => none := by
  obtain ⟨p, ps, rfl⟩ := List.exists_cons_of_ne_nil hf
  rw [List.tail_cons] at hnf
  have hint : (p :: ps ++ [] :: back).tail.dropLast = ps ++ [] :: back.dropLast := by
    rw [List.cons_append, List.tail_cons, List.dropLast_append_of_ne_nil (by simp),
      List.dropLast_cons_of_ne_nil hb]
  have hcount : (ps ++ [] :: back.dropLast).count [] = 1 := by
    rw [List.count_append, List.count_cons_self, List.count_eq_zero.2 hnf,
      List.count_eq_zero.2 hnb]
  have hidx : (ps ++ [] :: back.dropLast).idxOf [] + 1 = (p :: ps).length := by
    rw [List.idxOf_append_of_notMem hnf, List.idxOf_cons_self, List.length_cons]
  have htake : (p :: ps ++ [] :: back).take (p :: ps).length = p :: ps := List.take_left
  have hdrop : (p :: ps ++ [] :: back).drop ((p :: ps).length + 1) = back := by
    rw [List.append_cons, show (p :: ps).length + 1 = (p :: ps ++ [[]]).length by simp,
      List.drop_left]
  cases hh : beforeGap? (p :: ps) <;> cases hl : afterGap? back <;>
    simp only [fillGap?, hint, hcount, hidx, htake, hdrop, hh, hl]

/-- The parts of an address are eight without a gap, or they stand before and after one gap. -/
theorem fillGap?_cases {parts out : List Text} (h : fillGap? parts = some out) :
    ([] ∉ parts.tail.dropLast ∧ parts.length = 8 ∧ out = parts) ∨
      ∃ front back high low, parts = front ++ [] :: back ∧ front ≠ [] ∧ back ≠ [] ∧
        [] ∉ front.tail ∧ [] ∉ back.dropLast ∧ beforeGap? front = some high ∧
        afterGap? back = some low ∧ high.length + low.length < 8 ∧
        out = high ++ List.replicate (8 - (high.length + low.length)) ['0'] ++ low := by
  by_cases hmem : [] ∈ parts.tail.dropLast
  · obtain ⟨as, bs, hint, has⟩ := List.eq_append_cons_of_mem hmem
    -- a second empty part between the ends would be a second gap
    have hbs : [] ∉ bs := by
      intro hbs
      have hcount : 2 ≤ parts.tail.dropLast.count [] := by
        rw [hint, List.count_append, List.count_cons_self]
        have := List.count_pos_iff.2 hbs
        omega
      unfold fillGap? at h
      dsimp only at h
      split at h
      · omega
      · omega
      · cases h
    obtain ⟨p, rest, rfl⟩ := List.exists_cons_of_ne_nil (l := parts) (by rintro rfl; simp at hmem)
    rw [List.tail_cons] at hint
    have hrest : rest ≠ [] := by
      rintro rfl
      simp at hint
    have hparts : p :: rest = (p :: as) ++ [] :: (bs ++ [rest.getLast hrest]) := by
      calc p :: rest = p :: (rest.dropLast ++ [rest.getLast hrest]) := by
            rw [List.dropLast_concat_getLast]
        _ = (p :: as) ++ [] :: (bs ++ [rest.getLast hrest]) := by
            rw [hint]
            simp
    rw [hparts, fillGap?_append (by simp) (by simp) (by simpa using has)
      (by rwa [List.dropLast_concat])] at h
    split at h
    · next high low hhigh hlow =>
      split at h
      · next hlt =>
        cases h
        exact .inr ⟨p :: as, bs ++ [rest.getLast hrest], high, low, hparts, by simp, by simp,
          by simpa using has, by rwa [List.dropLast_concat], hhigh, hlow, hlt, rfl⟩
      · cases h
    · cases h
  · unfold fillGap? at h
    dsimp only at h
    simp only [List.count_eq_zero.2 hmem] at h
    split at h
    · next hlen =>
      cases h
      exact .inl ⟨hmem, hlen, rfl⟩
    · cases h

/-- Filling a gap drops only empty parts. -/
theorem mem_of_fillGap? {parts out : List Text} (h : fillGap? parts = some out) {p : Text}
    (hp : p ∈ parts) : p = [] ∨ p ∈ out := by
  rcases fillGap?_cases h with ⟨-, -, rfl⟩ |
    ⟨front, back, high, low, rfl, -, -, -, -, hhigh, hlow, -, rfl⟩
  · exact .inr hp
  · rcases List.mem_append.1 hp with hp | hp
    · exact (mem_of_beforeGap? hhigh hp).imp_right fun hp => by simp [hp]
    · rcases List.mem_cons.1 hp with hp | hp
      · exact .inl hp
      · exact (mem_of_afterGap? hlow hp).imp_right fun hp => by simp [hp]

theorem numeral?_of_readGroup? {t : Text} {n : Nat} (h : readGroup? t = some n) :
    Text.numeral? 16 Text.hexDigit? t = some n ∧ t.length ≤ 4 := by
  unfold readGroup? at h
  split at h
  · cases h
  · next hlen => exact ⟨h, Nat.le_of_not_lt hlen⟩

/-- What it takes to be an address of eight groups: the parts between colons, with octets spread out
and the gap filled, are groups. -/
theorem readGroups?_eq_some_iff {t : Text} {n : Nat} :
    readGroups? t = some n ↔
      3 ≤ (Text.fields ':' t).length ∧
        ∃ spread, spreadOctets? (Text.fields ':' t) = some spread ∧ spread.length ≤ 9 ∧
          ∃ parts, fillGap? spread = some parts ∧
            ∃ gs, parts.mapM readGroup? = some gs ∧ n = ofDigitsIn 65536 gs := by
  unfold readGroups?
  dsimp only
  by_cases h3 : (Text.fields ':' t).length < 3
  · simp [h3]
  · cases hs : spreadOctets? (Text.fields ':' t) with
    | none => simp [h3]
    | some spread =>
      by_cases h9 : 9 < spread.length
      · simp [h3, h9]
      · cases hf : fillGap? spread with
        | none => simp [h3, h9, hf]
        | some parts =>
          have h3' : 3 ≤ (Text.fields ':' t).length := by omega
          have h9' : spread.length ≤ 9 := by omega
          simp [h3, h9, h3', h9', hf, eq_comm (a := n)]

theorem isLiteralChar_of_readGroups? {t : Text} {n : Nat} (h : readGroups? t = some n) :
    ∀ c ∈ t, isLiteralChar c = true := by
  obtain ⟨-, spread, hspread, -, parts, hparts, gs, hgs, -⟩ := readGroups?_eq_some_iff.1 h
  intro c hc
  rcases Text.mem_fields_of_mem ':' hc with rfl | ⟨p, hp, hcp⟩
  · decide
  · rcases of_mem_of_spreadOctets? hspread hp with hp | hp
    · rcases mem_of_fillGap? hparts hp with rfl | hp
      · cases hcp
      · obtain ⟨m, hm⟩ := exists_of_mapM_eq_some hgs hp
        exact isLiteralChar_of_hexDigit
          (Text.isSome_of_numeral? (numeral?_of_readGroup? hm).1 c hcp)
    · exact hp c hcp

/-! ### Addresses of either version -/

theorem colon_notMem_of_readOctets? {t : Text} {n : Nat} (h : readOctets? t = some n) :
    ':' ∉ t := by
  intro hm
  obtain ⟨-, ns, hns, -⟩ := readOctets?_eq_some_iff.1 h
  rcases Text.mem_fields_of_mem '.' hm with he | ⟨p, hp, hcp⟩
  · cases he
  · obtain ⟨m, hm⟩ := exists_of_mapM_eq_some hns hp
    have hdigit := Text.isSome_of_numeral? (numeral?_of_readOctet? hm).1 ':' hcp
    exact absurd hdigit (by decide)

theorem colon_mem_of_readGroups? {t : Text} {n : Nat} (h : readGroups? t = some n) : ':' ∈ t := by
  by_contra hm
  have h3 := (readGroups?_eq_some_iff.1 h).1
  rw [Text.fields_of_notMem hm] at h3
  simp at h3

/-- A text that reads as eight groups does not read as four octets. -/
theorem readV4?_of_readGroups? {t : Text} {n : Nat} (h : readGroups? t = some n) :
    readV4? t = none := by
  cases h4 : readOctets? t with
  | none => simp [readV4?, h4]
  | some m => exact absurd (colon_mem_of_readGroups? h) (colon_notMem_of_readOctets? h4)

/-- The ways to read an address: four octets, eight groups, or eight groups and a zone. -/
theorem read?_cases {t : Text} {x : Inet} (h : read? t = some x) :
    (∃ n, readOctets? t = some n ∧ x = .v4 (BitVec.ofNat 32 n)) ∨
      (∃ n, readGroups? t = some n ∧ x = .v6 (BitVec.ofNat 128 n) none) ∨
        ∃ address n zone, t = address ++ '%' :: zone.text ∧ readGroups? address = some n ∧
          x = .v6 (BitVec.ofNat 128 n) (some zone) := by
  unfold read? at h
  split at h
  · next y hy =>
    cases h
    obtain ⟨n, hn, rfl⟩ := Option.map_eq_some_iff.1 hy
    exact .inl ⟨n, hn, rfl⟩
  · unfold readV6? at h
    split at h
    · cases h
    · split at h
      · next address hcut =>
        obtain ⟨n, hn, rfl⟩ := Option.map_eq_some_iff.1 h
        exact .inr (.inl ⟨n, Text.eq_of_cut_none hcut ▸ hn, rfl⟩)
      · next address zoneText hcut =>
        split at h
        · next zone n hz hn =>
          cases h
          obtain ⟨-, ht⟩ := Text.eq_of_cut_some hcut
          have hzone : zone.text = zoneText := by
            unfold Zone.ofText? at hz
            split at hz
            · cases hz
              rfl
            · cases hz
          exact .inr (.inr ⟨address, n, zone, by rw [ht, hzone], hn, rfl⟩)
        · cases h

theorem slash_notMem_of_readGroups? {t : Text} {n : Nat} (h : readGroups? t = some n) : '/' ∉ t :=
  notMem_of_isLiteralChar (isLiteralChar_of_readGroups? h) (by decide)

theorem percent_notMem_of_readGroups? {t : Text} {n : Nat} (h : readGroups? t = some n) :
    '%' ∉ t :=
  notMem_of_isLiteralChar (isLiteralChar_of_readGroups? h) (by decide)

/-- Eight groups are read as an address without a zone. -/
theorem read?_of_readGroups? {t : Text} {n : Nat} (h : readGroups? t = some n) :
    read? t = some (.v6 (BitVec.ofNat 128 n) none) := by
  rw [read?, readV4?_of_readGroups? h, readV6?, if_neg (slash_notMem_of_readGroups? h),
    Text.cut_eq_of_notMem (percent_notMem_of_readGroups? h)]
  simp [h]

/-- An address without a percent sign in its text has no other characters than those of
addresses. -/
theorem isLiteralChar_of_read? {t : Text} {x : Inet} (h : read? t = some x) (hp : '%' ∉ t) :
    ∀ c ∈ t, isLiteralChar c = true := by
  rcases read?_cases h with ⟨n, hn, -⟩ | ⟨n, hn, -⟩ | ⟨address, n, zone, rfl, -, -⟩
  · exact isLiteralChar_of_readOctets? hn
  · exact isLiteralChar_of_readGroups? hn
  · simp at hp

/-- A slash stands neither in an address nor in a zone. -/
theorem slash_notMem_of_read? {t : Text} {x : Inet} (h : read? t = some x) : '/' ∉ t := by
  rcases read?_cases h with ⟨n, hn, -⟩ | ⟨n, hn, -⟩ | ⟨address, n, zone, rfl, hn, -⟩
  · exact notMem_of_isLiteralChar (isLiteralChar_of_readOctets? hn) (by decide)
  · exact slash_notMem_of_readGroups? hn
  · simp [slash_notMem_of_readGroups? hn, zone.slash_notMem]

/-- The text of an address begins with one of these characters. -/
theorem exists_cons_of_read? {t : Text} {x : Inet} (h : read? t = some x) :
    ∃ c rest, t = c :: rest ∧ isLiteralChar c = true := by
  rcases read?_cases h with ⟨n, hn, -⟩ | ⟨n, hn, -⟩ | ⟨address, n, zone, rfl, hn, -⟩
  · cases t with
    | nil => simp [readOctets?, Text.fields, Text.pieces] at hn
    | cons c rest => exact ⟨c, rest, rfl, isLiteralChar_of_readOctets? hn c List.mem_cons_self⟩
  · cases t with
    | nil => exact absurd (colon_mem_of_readGroups? hn) List.not_mem_nil
    | cons c rest => exact ⟨c, rest, rfl, isLiteralChar_of_readGroups? hn c List.mem_cons_self⟩
  · cases address with
    | nil => exact absurd (colon_mem_of_readGroups? hn) List.not_mem_nil
    | cons c rest =>
      exact ⟨c, rest ++ '%' :: zone.text, rfl, isLiteralChar_of_readGroups? hn c List.mem_cons_self⟩

end Inet

/-! ### Addresses as patterns -/

theorem Inet.bare_bare (x : Inet) : x.bare.bare = x.bare := by cases x <;> rfl

/-- Two addresses differ in nothing but the zone when they have the same version and number. -/
theorem Inet.bare_eq_iff {x y : Inet} :
    x.bare = y.bare ↔ x.version = y.version ∧ x.number = y.number := by
  cases x <;> cases y <;> simp [bare, version, number, BitVec.toNat_inj]

namespace Pattern

/-- A pattern selects an address whatever its zone. -/
theorem selects_congr {x y : Inet} (h : x.bare = y.bare) (p : Text) :
    selects p x = selects p y := by
  unfold selects
  cases read p with
  | error e => rfl
  | ok q =>
    show q.covers x = q.covers y
    rw [← covers_bare q x, ← covers_bare q y, h]

/-- Blanks around a pattern do not matter. -/
theorem selects_trim (t : Text) (x : Inet) : selects (Text.trim t) x = selects t x := by
  unfold selects read
  rw [Text.trim_trim]
  by_cases h : Text.trim t = []
  · rw [if_pos h, if_pos h]
  · rw [if_neg h, if_neg h]

theorem isPattern_of_selects {t : Text} {x : Inet} (h : selects t x = true) :
    isPattern t = true := by
  unfold selects at h
  unfold isPattern
  cases hr : read t with
  | ok p => rfl
  | error e =>
    rw [hr] at h
    cases h

/-- Taking blanks and the zone off the text of an address leaves the text of the address without
its zone. -/
theorem readLiteral?_trim_of_read? {t : Text} {x : Inet} (h : Inet.read? t = some x) :
    Text.trim t ≠ [] ∧ '/' ∉ Text.trim t ∧ readLiteral? (Text.trim t) = some x.bare := by
  have hplain : ∀ {u : Text}, u ≠ [] → (∀ c ∈ u, Inet.isLiteralChar c = true) →
      Text.trim u ≠ [] ∧ '/' ∉ Text.trim u ∧ readLiteral? (Text.trim u) = Inet.read? u := by
    intro u hu hall
    rw [Text.trim_eq_self fun c hc => Inet.isBlank_of_isLiteralChar (hall c hc), readLiteral?,
      Text.before_of_notMem (Inet.notMem_of_isLiteralChar hall (by decide))]
    exact ⟨hu, Inet.notMem_of_isLiteralChar hall (by decide), rfl⟩
  have hne : t ≠ [] := by
    obtain ⟨c, rest, rfl, -⟩ := Inet.exists_cons_of_read? h
    exact List.cons_ne_nil c rest
  rcases Inet.read?_cases h with ⟨n, hn, rfl⟩ | ⟨n, hn, rfl⟩ | ⟨address, n, zone, rfl, hn, rfl⟩
  · obtain ⟨h1, h2, h3⟩ := hplain hne (Inet.isLiteralChar_of_readOctets? hn)
    exact ⟨h1, h2, h3.trans h⟩
  · obtain ⟨h1, h2, h3⟩ := hplain hne (Inet.isLiteralChar_of_readGroups? hn)
    exact ⟨h1, h2, h3.trans h⟩
  · have hall := Inet.isLiteralChar_of_readGroups? hn
    have htrim : Text.trim (address ++ '%' :: zone.text) =
        address ++ '%' :: Text.trimEnd zone.text := by
      obtain ⟨c, rest, rfl⟩ := List.exists_cons_of_ne_nil
        (List.ne_nil_of_mem (Inet.colon_mem_of_readGroups? hn))
      have hc := Inet.isBlank_of_isLiteralChar (hall c List.mem_cons_self)
      rw [Text.trim, List.cons_append, Text.trimStart_cons hc, ← List.cons_append,
        Text.trimEnd_append_cons (by decide)]
    have hzone : '/' ∉ Text.trimEnd zone.text := fun hm =>
      zone.slash_notMem ((List.rdropWhile_prefix Text.isBlank _).subset hm)
    rw [htrim, readLiteral?, Text.before_append (Inet.percent_notMem_of_readGroups? hn),
      Inet.read?_of_readGroups? hn]
    refine ⟨by simp, ?_, rfl⟩
    simp [Inet.slash_notMem_of_readGroups? hn, hzone]

/-- The text of an address is the pattern of that address alone. -/
theorem read_of_read? {t : Text} {x : Inet} (h : Inet.read? t = some x) :
    read t = .ok (single x.bare) := by
  obtain ⟨hne, hslash, hlit⟩ := readLiteral?_trim_of_read? h
  rw [read, if_neg hne, readTrimmed, if_neg hslash, hlit]

theorem covers_single {x y : Inet} : (single x).covers y = true ↔ y.bare = x.bare := by
  rw [Inet.bare_eq_iff]
  simp only [covers, single, version, Bool.and_eq_true, beq_iff_eq, decide_eq_true_eq]
  exact and_congr_right fun _ => ⟨fun h => le_antisymm h.2 h.1, fun h => ⟨h.ge, h.le⟩⟩

/-- The text of an address selects that address, with whatever zone, and no other. -/
theorem selects_of_read? {t : Text} {x y : Inet} (h : Inet.read? t = some x) :
    selects t y = true ↔ y.bare = x.bare := by
  rw [selects, read_of_read? h]
  show (single x.bare).covers y = true ↔ _
  rw [covers_single]
  cases x <;> rfl

/-- A pattern selects the text of an address just when it selects the address. -/
theorem selectsText_of_read? {p t : Text} {x : Inet} (h : Inet.read? t = some x) :
    selectsText p t = selects p x := by
  obtain ⟨-, -, hlit⟩ := readLiteral?_trim_of_read? h
  rw [selectsText, hlit]
  exact selects_congr x.bare_bare p

end Pattern

end MemberAddress
