import MemberAddress.Address
import MemberAddress.HostPort
import MemberAddress.Proofs.PatternForms

/-!
# The forms of hosts with ports

A configured address is written as a name or as groups, with a zone after a percent sign, and with
one port or two after a colon; groups stand between brackets when a port follows. `HostForm` is such
a form as data, with `HostForm.text` its text and `HostForm.parts` what it stands for.

* `HostForm.split_text` takes the text of a form apart;
* `HostPort.read_text` reads back what an address prints, `Address.text`;
* `HostPort.read_form` says that every form, with any blanks around it, is read as what it stands
  for, so that reading undoes printing.
-/

namespace MemberAddress

/-! ### Runs of digits -/

/-- Digits continue a number by their values. -/
theorem Text.continueNumeral?_eq_foldl {base : Nat} {digit? : Char → Option Nat} {t : Text}
    (h : ∀ c ∈ t, (digit? c).isSome = true) (value : Nat) :
    continueNumeral? base digit? value t =
      some ((t.filterMap digit?).foldl (fun value d => value * base + d) value) := by
  induction t generalizing value with
  | nil => rfl
  | cons c rest ih =>
    obtain ⟨d, hd⟩ := Option.isSome_iff_exists.1 (h c List.mem_cons_self)
    have hrest : ∀ c ∈ rest, (digit? c).isSome = true := fun c hc => h c (List.mem_cons_of_mem _ hc)
    rw [continueNumeral?, List.filterMap_cons, hd]
    exact ih hrest _

/-- A run of decimal digits of any scripts, no longer than a numeral may be. -/
structure DigitRun where
  text : Text
  ne_nil : text ≠ []
  isDigit : ∀ c ∈ text, Text.isDigit c = true
  length_le : text.length ≤ Text.numeralLimit

namespace DigitRun

/-- The number with the values of the digits, to base ten. -/
def value (r : DigitRun) : Nat := ofDigitsIn 10 (r.text.filterMap Text.digit?)

theorem numeral?_text (r : DigitRun) : Text.numeral? 10 Text.digit? r.text = some r.value := by
  rw [Text.numeral?, if_neg r.ne_nil, Text.continueNumeral?_eq_foldl r.isDigit]
  rfl

/-- A run of digits is read as its number. -/
theorem readNumber_text (r : DigitRun) : HostPort.readNumber r.text = .ok r.value := by
  rw [HostPort.readNumber, if_neg (Nat.not_lt.2 r.length_le), r.numeral?_text, Option.getD_some]

theorem all_isDigit (r : DigitRun) : r.text.all Text.isDigit = true :=
  List.all_eq_true.2 r.isDigit

/-- No sign and no blank is a digit. -/
theorem notMem_of_sign (r : DigitRun) {c : Char} (hc : c ∈ Pattern.signs) : c ∉ r.text := by
  intro hm
  have hd : (Text.digit? c).isSome = true := r.isDigit c hm
  rw [show Text.digit? c = none from Version.digit?_of_sign .v4 hc] at hd
  cases hd

/-- The digits of a port, without zeros in front. -/
def ofNat (n : Nat) (hle : n ≤ HostPort.maxPort) : DigitRun where
  text := Text.decimal n
  ne_nil := Nat.toDigits_ne_nil
  isDigit := Text.isSome_of_numeral? (Text.numeral?_toDigits (by decide) (by decide) n)
  length_le := by
    have hlen : (Nat.toDigits 10 n).length ≤ 5 :=
      (Nat.length_toDigits_le_iff (by decide) (by decide)).2 (hle.trans_lt (by decide))
    exact hlen.trans (by decide)

@[simp] theorem text_ofNat (n : Nat) (hle : n ≤ HostPort.maxPort) :
    (ofNat n hle).text = Text.decimal n := rfl

@[simp] theorem value_ofNat (n : Nat) (hle : n ≤ HostPort.maxPort) : (ofNat n hle).value = n := by
  have hread : Text.numeral? 10 Text.digit? (Text.decimal n) = some n :=
    Text.numeral?_toDigits (by decide) (by decide) n
  exact Option.some.inj ((ofNat n hle).numeral?_text.symm.trans hread)

end DigitRun

/-! ### Ports -/

/-- One port, or two with a hyphen between them. -/
structure PortText where
  first : DigitRun
  last : Option DigitRun

namespace PortText

/-- The text of a port or of two. -/
def text (p : PortText) : Text :=
  match p.last with
  | none => p.first.text
  | some last => p.first.text ++ '-' :: last.text

/-- The port that counts: the first, if none is above the highest. -/
def number? (p : PortText) : Option Nat :=
  if p.first.value ≤ HostPort.maxPort ∧ ∀ last ∈ p.last, last.value ≤ HostPort.maxPort then
    some p.first.value
  else none

/-- The text has no other signs than the hyphen. -/
theorem notMem_text (p : PortText) {c : Char} (hc : c ∈ Pattern.signs) (hhyphen : c ≠ '-') :
    c ∉ p.text := by
  unfold text
  cases p.last with
  | none => exact p.first.notMem_of_sign hc
  | some last => simp [p.first.notMem_of_sign hc, last.notMem_of_sign hc, hhyphen]

theorem not_isBlank (p : PortText) : ∀ c ∈ p.text, Text.isBlank c = false := by
  intro c hm
  by_contra hc
  have hblank : c ∈ Text.blanks := by simpa [Text.isBlank] using hc
  refine p.notMem_text (List.mem_append_right _ hblank) ?_ hm
  rintro rfl
  exact absurd hblank (by decide)

theorem portTexts?_text (p : PortText) :
    HostPort.portTexts? p.text = some (p.first.text, p.last.map DigitRun.text) := by
  have hhyphen : '-' ∉ p.first.text := p.first.notMem_of_sign (by decide)
  obtain ⟨first, _ | last⟩ := p
  · simp [HostPort.portTexts?, text, Text.cut_eq_of_notMem hhyphen, first.ne_nil,
      first.all_isDigit]
  · simp [HostPort.portTexts?, text, Text.cut_append hhyphen, first.ne_nil, last.ne_nil,
      first.all_isDigit, last.all_isDigit]

/-- A port or two are read as the port that counts, and blanks around them do not matter. -/
theorem readPort_of_trim (p : PortText) {t : Text} (h : Text.trim t = p.text) :
    HostPort.readPort t = .ok p.number? := by
  rw [HostPort.readPort, h, p.portTexts?_text]
  obtain ⟨first, _ | last⟩ := p
  · simp only [Option.map_none, Option.getD_none, first.readNumber_text, number?]
    by_cases h : first.value ≤ HostPort.maxPort
    · simp [h, Nat.not_lt.2 h]
    · simp [h, Nat.lt_of_not_le h]
  · simp only [Option.map_some, Option.getD_some, first.readNumber_text, last.readNumber_text,
      number?]
    by_cases h : first.value ≤ HostPort.maxPort ∧ last.value ≤ HostPort.maxPort
    · simp [h, Nat.not_lt.2 h.1, Nat.not_lt.2 h.2]
    · have hlt : HostPort.maxPort < first.value ∨ HostPort.maxPort < last.value := by omega
      simp [h, hlt]

theorem trim_text (p : PortText) : Text.trim p.text = p.text := Text.trim_eq_self p.not_isBlank

end PortText

/-! ### Hosts and zones -/

namespace HostPort

/-- Whether a character may stand in a host: it is no blank, no bracket and no percent sign. -/
def isHostChar (c : Char) : Bool := !(Text.isBlank c || c == '[' || c == ']' || c == '%')

theorem notMem_of_isHostChar {t : Text} (h : ∀ c ∈ t, isHostChar c = true) {c : Char}
    (hc : isHostChar c = false) : c ∉ t := by
  intro hm
  rw [h c hm] at hc
  cases hc

theorem isBlank_of_isHostChar {c : Char} (h : isHostChar c = true) : Text.isBlank c = false := by
  by_contra hc
  simp_all [isHostChar]

end HostPort

/-- A name: a host without colons. -/
structure HostName where
  text : Text
  ne_nil : text ≠ []
  isHostChar : ∀ c ∈ text, HostPort.isHostChar c = true
  colon_notMem : ':' ∉ text

/-- Groups: a host with two colons or more. -/
structure HostGroups where
  text : Text
  isHostChar : ∀ c ∈ text, HostPort.isHostChar c = true
  two_le_count : 2 ≤ text.count ':'

/-- The text of a zone, which ends before a colon and a closing bracket. -/
structure ZoneText where
  text : Text
  ne_nil : text ≠ []
  not_isBlank : ∀ c ∈ text, Text.isBlank c = false
  colon_notMem : ':' ∉ text
  bracket_notMem : ']' ∉ text

/-- A zone after its percent sign, if there is a zone. -/
def ZoneText.suffix : Option ZoneText → Text
  | none => []
  | some zone => '%' :: zone.text

/-- A port or two after their colon, if there is a port. -/
def PortText.suffix : Option PortText → Text
  | none => []
  | some port => ':' :: port.text

namespace ZoneText

theorem colon_notMem_suffix (zone : Option ZoneText) : ':' ∉ suffix zone := by
  cases zone with
  | none => simp [suffix]
  | some zone => simp [suffix, zone.colon_notMem]

theorem bracket_notMem_suffix (zone : Option ZoneText) : ']' ∉ suffix zone := by
  cases zone with
  | none => simp [suffix]
  | some zone => simp [suffix, zone.bracket_notMem]

theorem not_isBlank_suffix (zone : Option ZoneText) :
    ∀ c ∈ suffix zone, Text.isBlank c = false := by
  cases zone with
  | none => simp [suffix]
  | some zone => exact List.forall_mem_cons.2 ⟨by decide, zone.not_isBlank⟩

theorem head?_append_suffix {host : Text} (hhost : ∀ c ∈ host, HostPort.isHostChar c = true)
    (zone : Option ZoneText) : (host ++ suffix zone).head? ≠ some '[' := by
  have hbracket : '[' ∉ host := HostPort.notMem_of_isHostChar hhost (by decide)
  cases host with
  | nil => cases zone <;> simp [suffix]
  | cons c rest =>
    rintro ⟨⟩
    exact hbracket List.mem_cons_self

/-- A zone is taken off the host that it follows. -/
theorem ofHost_append_suffix {host : Text} (hhost : ∀ c ∈ host, HostPort.isHostChar c = true)
    (zone : Option ZoneText) (port : Option Nat) :
    HostPort.ofHost (host ++ suffix zone) port = ⟨host, zone.map text, port.map Int.ofNat⟩ := by
  have hpercent : '%' ∉ host := HostPort.notMem_of_isHostChar hhost (by decide)
  cases zone with
  | none => simp [HostPort.ofHost, suffix, Text.cut_eq_of_notMem hpercent]
  | some zone => simp [HostPort.ofHost, suffix, Text.cut_append hpercent]

end ZoneText

theorem PortText.not_isBlank_suffix (port : Option PortText) :
    ∀ c ∈ suffix port, Text.isBlank c = false := by
  cases port with
  | none => simp [suffix]
  | some port => exact List.forall_mem_cons.2 ⟨by decide, port.not_isBlank⟩

/-! ### Taking texts apart -/

namespace HostPort

variable {t host : Text}

/-- A text that opens no bracket is a host as it stands, if it has not just one colon. -/
theorem splitTrimmed_of_count_ne (hbracket : t.head? ≠ some '[') (hcount : t.count ':' ≠ 1) :
    splitTrimmed t = .ok (ofHost t none) := by
  unfold splitTrimmed
  split
  · exact absurd rfl hbracket
  · rw [if_neg hcount]

/-- A port after the only colon is taken off. -/
theorem splitTrimmed_append_port {rest : Text} {port : PortText}
    (hbracket : host.head? ≠ some '[') (hcolon : ':' ∉ host) (hrest : ':' ∉ rest)
    (hport : Text.trim rest = port.text) :
    splitTrimmed (host ++ ':' :: rest) = .ok (ofHost host port.number?) := by
  have hcount : (host ++ ':' :: rest).count ':' = 1 := by
    rw [List.count_append, List.count_cons_self, List.count_eq_zero.2 hcolon,
      List.count_eq_zero.2 hrest]
  unfold splitTrimmed
  split
  · next inner he =>
    cases host with
    | nil => cases he
    | cons c rest =>
      obtain ⟨rfl, -⟩ := List.cons.inj he
      exact absurd rfl hbracket
  · rw [if_pos hcount, Text.cut_append hcolon]
    simp only [hport, port.portTexts?_text, Option.isSome_some, if_true,
      port.readPort_of_trim hport]
    rfl

/-- A host between brackets is taken out of them, and a port after them is taken off. -/
theorem splitTrimmed_bracketed_port {rest : Text} {port : PortText} (hbracket : ']' ∉ host)
    (hport : Text.trim rest = port.text) :
    splitTrimmed ('[' :: host ++ ']' :: ':' :: rest) = .ok (ofHost host port.number?) := by
  rw [List.cons_append, splitTrimmed, Text.cut_append hbracket]
  simp only [port.readPort_of_trim hport]
  rfl

theorem splitTrimmed_bracketed (hbracket : ']' ∉ host) (port : Option PortText) :
    splitTrimmed ('[' :: host ++ ']' :: PortText.suffix port) =
      .ok (ofHost host (port.bind PortText.number?)) := by
  cases port with
  | none =>
    rw [List.cons_append, splitTrimmed, Text.cut_append hbracket]
    rfl
  | some port => exact splitTrimmed_bracketed_port hbracket port.trim_text

/-- A text that can be taken apart has no port, or else one that was read behind the brackets that
it begins with or behind its only colon. -/
theorem splitTrimmed_cases {parts : HostPort} (h : splitTrimmed t = .ok parts) :
    (∃ host, parts = ofHost host none) ∨
      ∃ host rest port, readPort rest = .ok port ∧ parts = ofHost host port ∧
        (']' ∉ host ∧ t = '[' :: host ++ ']' :: ':' :: rest ∨
          host.head? ≠ some '[' ∧ ':' ∉ host ∧ ':' ∉ rest ∧ t = host ++ ':' :: rest) := by
  have hread {host rest : Text} (hr : (readPort rest).map (ofHost host) = .ok parts) :
      ∃ port, readPort rest = .ok port ∧ parts = ofHost host port := by
    cases hp : readPort rest with
    | error f =>
      rw [hp] at hr
      cases hr
    | ok port =>
      rw [hp] at hr
      exact ⟨port, rfl, (Except.ok.inj hr).symm⟩
  unfold splitTrimmed at h
  split at h
  · next inner =>
    split at h
    · exact .inl ⟨_, (Except.ok.inj h).symm⟩
    · next host rest hcut =>
      obtain ⟨hclosed, rfl⟩ := Text.eq_of_cut_some hcut
      obtain ⟨port, hp, rfl⟩ := hread h
      exact .inr ⟨host, rest, port, hp, rfl, .inl ⟨hclosed, rfl⟩⟩
    · exact .inl ⟨_, (Except.ok.inj h).symm⟩
  · next hopened =>
    split at h
    · next hcount =>
      split at h
      · next host rest hcut =>
        obtain ⟨hfirst, rfl⟩ := Text.eq_of_cut_some hcut
        split at h
        · obtain ⟨port, hp, rfl⟩ := hread h
          refine .inr ⟨host, rest, port, hp, rfl, .inr ⟨fun hhead => ?_, hfirst, ?_, rfl⟩⟩
          · obtain ⟨more, rfl⟩ := List.head?_eq_some_iff.1 hhead
            exact hopened _ rfl
          · rw [List.count_append, List.count_cons_self] at hcount
            exact List.count_eq_zero.1 (by omega)
        · exact .inl ⟨_, (Except.ok.inj h).symm⟩
      · exact .inl ⟨_, (Except.ok.inj h).symm⟩
    · exact .inl ⟨_, (Except.ok.inj h).symm⟩

end HostPort

/-! ### The forms -/

/-- The documented forms of a host with a zone and a port. -/
inductive HostForm
  | name (host : HostName) (zone : Option ZoneText) (port : Option PortText)
  | groups (host : HostGroups) (zone : Option ZoneText)
  | bracketed (host : HostGroups) (zone : Option ZoneText) (port : Option PortText)

namespace HostForm

/-- The text of a form. -/
def text : HostForm → Text
  | name host zone port => host.text ++ ZoneText.suffix zone ++ PortText.suffix port
  | groups host zone => host.text ++ ZoneText.suffix zone
  | bracketed host zone port =>
    '[' :: (host.text ++ ZoneText.suffix zone) ++ ']' :: PortText.suffix port

/-- What a form stands for: the host, the zone, and the port that counts, if one does. -/
def parts : HostForm → HostPort
  | name host zone port =>
    ⟨host.text, zone.map ZoneText.text, (port.bind PortText.number?).map Int.ofNat⟩
  | groups host zone => ⟨host.text, zone.map ZoneText.text, none⟩
  | bracketed host zone port =>
    ⟨host.text, zone.map ZoneText.text, (port.bind PortText.number?).map Int.ofNat⟩

/-- There is no blank in a form. -/
theorem not_isBlank (form : HostForm) : ∀ c ∈ form.text, Text.isBlank c = false := by
  have hhost {host : Text} (h : ∀ c ∈ host, HostPort.isHostChar c = true) :
      ∀ c ∈ host, Text.isBlank c = false := fun c hc => HostPort.isBlank_of_isHostChar (h c hc)
  cases form with
  | name host zone port =>
    simp only [text, List.forall_mem_append]
    exact ⟨⟨hhost host.isHostChar, ZoneText.not_isBlank_suffix zone⟩,
      PortText.not_isBlank_suffix port⟩
  | groups host zone =>
    simp only [text, List.forall_mem_append]
    exact ⟨hhost host.isHostChar, ZoneText.not_isBlank_suffix zone⟩
  | bracketed host zone port =>
    simp only [text, List.forall_mem_append, List.forall_mem_cons]
    exact ⟨⟨by decide, hhost host.isHostChar, ZoneText.not_isBlank_suffix zone⟩, by decide,
      PortText.not_isBlank_suffix port⟩

/-- The text of a form is taken apart into what the form stands for. -/
theorem splitTrimmed_text (form : HostForm) : HostPort.splitTrimmed form.text = .ok form.parts := by
  cases form with
  | name host zone port =>
    have hbracket := ZoneText.head?_append_suffix host.isHostChar zone
    have hcolon : ':' ∉ host.text ++ ZoneText.suffix zone := by
      simp [host.colon_notMem, ZoneText.colon_notMem_suffix]
    cases port with
    | none =>
      have hcount : (host.text ++ ZoneText.suffix zone).count ':' ≠ 1 := by
        rw [List.count_eq_zero.2 hcolon]
        exact Nat.zero_ne_one
      rw [text, PortText.suffix, List.append_nil,
        HostPort.splitTrimmed_of_count_ne hbracket hcount,
        ZoneText.ofHost_append_suffix host.isHostChar]
      rfl
    | some port =>
      rw [text, PortText.suffix, HostPort.splitTrimmed_append_port hbracket hcolon
          (port.notMem_text (by decide) (by decide)) port.trim_text,
        ZoneText.ofHost_append_suffix host.isHostChar]
      rfl
  | groups host zone =>
    have hcount : (host.text ++ ZoneText.suffix zone).count ':' ≠ 1 := by
      have htwo := host.two_le_count
      rw [List.count_append]
      omega
    rw [text, HostPort.splitTrimmed_of_count_ne
        (ZoneText.head?_append_suffix host.isHostChar zone) hcount,
      ZoneText.ofHost_append_suffix host.isHostChar]
    rfl
  | bracketed host zone port =>
    have hbracket : ']' ∉ host.text ++ ZoneText.suffix zone := by
      simp [HostPort.notMem_of_isHostChar host.isHostChar (c := ']') (by decide),
        ZoneText.bracket_notMem_suffix]
    rw [text, HostPort.splitTrimmed_bracketed hbracket,
      ZoneText.ofHost_append_suffix host.isHostChar]
    rfl

/-- Blanks around a form do not matter. -/
theorem split_text (form : HostForm) (pre post : Blanks) :
    HostPort.split (pre.text ++ form.text ++ post.text) = .ok form.parts := by
  rw [HostPort.split, Text.trim_append_append pre.isBlank post.isBlank,
    Text.trim_eq_self form.not_isBlank, form.splitTrimmed_text]

end HostForm

/-! ### Addresses -/

namespace HostPort

variable {a : Address}

/-- The printed port of an address is a text of one port. -/
theorem exists_portText (h0 : 0 ≤ a.port) (hmax : a.port ≤ maxPort) :
    ∃ port : PortText, Text.integer a.port = port.text ∧
      port.number?.map Int.ofNat = some a.port := by
  obtain ⟨n, hn⟩ := Int.eq_ofNat_of_zero_le h0
  have hle : n ≤ maxPort := by omega
  refine ⟨⟨.ofNat n hle, none⟩, ?_, ?_⟩
  · rw [hn]
    rfl
  · simp [PortText.number?, hle, hn]

/-- What an address prints is read back as its host and its port, without a zone. It does not matter
whether the host is one of the documented forms. -/
theorem read_text (hhost : ∀ c ∈ a.host, isHostChar c = true) (h0 : 0 ≤ a.port)
    (hmax : a.port ≤ maxPort) (default : Option Int) :
    read a.text default = .ok ⟨a.host, none, some a.port⟩ := by
  obtain ⟨port, hport, hnumber⟩ := exists_portText h0 hmax
  have hofHost : ofHost a.host port.number? = ⟨a.host, none, some a.port⟩ := by
    have h := ZoneText.ofHost_append_suffix hhost none port.number?
    rwa [ZoneText.suffix, List.append_nil, hnumber] at h
  have hblank : ∀ c ∈ a.host, Text.isBlank c = false := fun c hc =>
    isBlank_of_isHostChar (hhost c hc)
  have hsplit : split a.text = .ok (ofHost a.host port.number?) := by
    unfold Address.text split
    rw [hport]
    by_cases hv : a.isV6 = true
    · have htrim : ∀ c ∈ '[' :: a.host ++ ']' :: ':' :: port.text, Text.isBlank c = false := by
        simp only [List.forall_mem_append, List.forall_mem_cons]
        exact ⟨⟨by decide, hblank⟩, by decide, by decide, port.not_isBlank⟩
      rw [if_pos hv, Text.trim_eq_self htrim]
      exact splitTrimmed_bracketed (notMem_of_isHostChar hhost (by decide)) (some port)
    · have hcolon : ':' ∉ a.host := by simpa [Address.isV6] using hv
      have hbracket : a.host.head? ≠ some '[' := fun h =>
        notMem_of_isHostChar hhost (by decide) (List.mem_of_mem_head? h)
      have htrim : ∀ c ∈ a.host ++ ':' :: port.text, Text.isBlank c = false := by
        simp only [List.forall_mem_append, List.forall_mem_cons]
        exact ⟨hblank, by decide, port.not_isBlank⟩
      rw [if_neg hv, Text.trim_eq_self htrim, splitTrimmed_append_port hbracket hcolon
        (port.notMem_text (by decide) (by decide)) port.trim_text]
  rw [read, hsplit, hofHost]
  rfl

/-- Every documented form, with any blanks around it, is read as what it stands for, with the
default port where no port counts. So the text of an address whose host is a name or groups is read
back as that address, whatever the default port is. -/
theorem read_form (default : Option Int) :
    (∀ (form : HostForm) (pre post : Blanks),
      read (pre.text ++ form.text ++ post.text) default =
        .ok { form.parts with port := form.parts.port.or default }) ∧
    ∀ a : Address,
      (∃ host : HostName, a.host = host.text) ∨ (∃ host : HostGroups, a.host = host.text) →
      0 ≤ a.port → a.port ≤ maxPort → read a.text default = .ok ⟨a.host, none, some a.port⟩ := by
  constructor
  · intro form pre post
    rw [read, form.split_text]
    simp [Except.map, orPort]
  · intro a hhost h0 hmax
    refine read_text ?_ h0 hmax default
    rcases hhost with ⟨host, h⟩ | ⟨host, h⟩
    · exact h ▸ host.isHostChar
    · exact h ▸ host.isHostChar

/-- The first of two ports counts, and the zone of an address between brackets is taken off; an
address of groups is printed and read back. -/
theorem read_form_zoned :
    read " [fe80::1%eth0]:5701-5703".toList none =
      .ok ⟨"fe80::1".toList, some "eth0".toList, some 5701⟩ ∧
    read (Address.text ⟨"fe80::1".toList, 65535, some "eth0".toList⟩) (some 5701) =
      .ok ⟨"fe80::1".toList, none, some 65535⟩ := by
  let host : HostGroups := ⟨"fe80::1".toList, List.all_eq_true.1 (by decide), by decide⟩
  let zone : ZoneText := ⟨"eth0".toList, by decide, by simp [Text.isBlank, Text.blanks],
    by decide, by decide⟩
  let port : PortText := ⟨.ofNat 5701 (by decide), some (.ofNat 5703 (by decide))⟩
  have hparts : (HostForm.bracketed host (some zone) (some port)).parts =
      ⟨"fe80::1".toList, some "eth0".toList, some 5701⟩ := by decide +kernel
  have hform := (read_form none).1 (.bracketed host (some zone) (some port))
    ⟨[' '], List.all_eq_true.1 (by decide)⟩ ⟨[], by simp⟩
  rw [hparts] at hform
  exact ⟨hform, (read_form (some 5701)).2 _ (.inr ⟨host, rfl⟩) (by decide) (by decide)⟩

end HostPort

end MemberAddress
