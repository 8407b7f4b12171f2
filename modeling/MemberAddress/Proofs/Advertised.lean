import MemberAddress.Proofs.Loopback
import MemberAddress.Proofs.ZoneApart

/-!
# A forced address to advertise

The text of a forced address to advertise is read as a host with a zone and a port, and the host is
advertised. A loopback name and an address that is written out need no name service for that.

* `HostPort.Carries` says which ports a text carries, `HostPort.port_of_split` which of them counts;
* `Picker.Settles` says that an address is advertised whatever the name service answers;
* `Picker.AdvertisesExactly` is what a text should do, and `Picker.advertisesExactly_iff` says that
  every text does, unless it spells the name `localhost` with something around it.
-/

namespace MemberAddress

/-! ### The ports that a text carries -/

namespace HostPort

/-- The ports that a text without blanks around it carries: those behind the brackets that it begins
with, or those behind its only colon. -/
inductive Carries : Text → PortText → Prop
  | bracketed {host rest : Text} {ports : PortText} (closed : ']' ∉ host)
    (trimmed : Text.trim rest = ports.text) : Carries ('[' :: host ++ ']' :: ':' :: rest) ports
  | plain {host rest : Text} {ports : PortText} (opened : host.head? ≠ some '[')
    (first : ':' ∉ host) (only : ':' ∉ rest) (trimmed : Text.trim rest = ports.text) :
    Carries (host ++ ':' :: rest) ports

variable {t first rest : Text} {last : Option Text} {parts : HostPort}

/-- Digits that are read as a number are a run of digits. -/
theorem exists_digitRun {n : Nat} (hne : t ≠ []) (hdigits : t.all Text.isDigit = true)
    (h : readNumber t = .ok n) : ∃ r : DigitRun, r.text = t := by
  have hlen : t.length ≤ Text.numeralLimit := by
    by_contra hlong
    rw [readNumber, if_pos (Nat.not_le.1 hlong)] at h
    cases h
  exact ⟨⟨t, hne, List.all_eq_true.1 hdigits, hlen⟩, rfl⟩

/-- A port that counts is one of the ports in the text. -/
theorem exists_ports_of_readPort {n : Nat} (h : readPort t = .ok (some n)) :
    ∃ ports : PortText, Text.trim t = ports.text := by
  unfold readPort at h
  split at h
  · cases h
  · next firstText lastText htexts =>
    split at h
    · cases h
    · cases h
    · next first last hfirst hlast =>
      unfold portTexts? at htexts
      split at htexts
      · next u hcut =>
        split at htexts
        · next hu =>
          cases htexts
          obtain ⟨r, hr⟩ := exists_digitRun hu.1 hu.2 hfirst
          exact ⟨⟨r, none⟩, (Text.eq_of_cut_none hcut).trans hr.symm⟩
        · cases htexts
      · next u v hcut =>
        split at htexts
        · next huv =>
          cases htexts
          obtain ⟨hu, hudigits, hv, hvdigits⟩ := huv
          obtain ⟨r, hr⟩ := exists_digitRun hu hudigits hfirst
          obtain ⟨r', hr'⟩ := exists_digitRun hv hvdigits hlast
          exact ⟨⟨r, some r'⟩, by simp only [(Text.eq_of_cut_some hcut).2, PortText.text, hr, hr']⟩
        · cases htexts

/-- The port of a text is the first that it carries, as far as it counts. -/
theorem splitTrimmed_of_carries {ports : PortText} (h : Carries t ports) :
    ∃ host, splitTrimmed t = .ok (ofHost host ports.number?) := by
  cases h with
  | bracketed closed trimmed => exact ⟨_, splitTrimmed_bracketed_port closed trimmed⟩
  | plain opened first only trimmed => exact ⟨_, splitTrimmed_append_port opened first only trimmed⟩

/-- A text with a port carries ports. -/
theorem exists_carries_of_splitTrimmed {port : Int} (h : splitTrimmed t = .ok parts)
    (hport : parts.port = some port) : ∃ ports, Carries t ports := by
  rcases splitTrimmed_cases h with ⟨host, rfl⟩ | ⟨host, rest, number, hnumber, rfl, hform⟩
  · cases hport
  · obtain ⟨n, rfl, -⟩ := Option.map_eq_some_iff.1 hport
    obtain ⟨ports, hports⟩ := exists_ports_of_readPort hnumber
    rcases hform with ⟨hclosed, rfl⟩ | ⟨hopened, hfirst, honly, rfl⟩
    · exact ⟨ports, .bracketed hclosed hports⟩
    · exact ⟨ports, .plain hopened hfirst honly hports⟩

/-- With a default, the port of a text is the first of the ports that it carries, if none of them is
above the highest, and otherwise the default. -/
theorem port_of_read {port : Int} (h : read t (some port) = .ok parts) :
    ∃ p, parts.port = some p ∧
      (∀ ports, Carries (Text.trim t) ports → p = (ports.number?.map Int.ofNat).getD port) ∧
      ((∀ ports, ¬ Carries (Text.trim t) ports) → p = port) := by
  obtain ⟨parts', hs, rfl⟩ := exists_split_of_read h
  refine ⟨parts'.port.getD port, ?_, fun ports hc => ?_, fun hnone => ?_⟩
  · show (parts'.port <|> some port) = _
    cases parts'.port <;> rfl
  · obtain ⟨host, hhost⟩ := splitTrimmed_of_carries hc
    obtain rfl : ofHost host ports.number? = parts' := Except.ok.inj (hhost.symm.trans hs)
    rfl
  · cases hport : parts'.port with
    | none => rfl
    | some n =>
      obtain ⟨ports, hc⟩ := exists_carries_of_splitTrimmed hs hport
      exact absurd hc (hnone ports)

/-- The zone that was read, if there is one and it is not empty. -/
def givenZone (a : HostPort) : Option Text :=
  match a.zone with
  | none | some [] => none
  | some zone => some zone

theorem hostWithZone_of_none {a : HostPort} (h : a.givenZone = none) :
    Choice.hostWithZone a = a.host := by
  obtain ⟨host, _ | _ | ⟨c, zone⟩, port⟩ := a
  · rfl
  · rfl
  · cases h

theorem hostWithZone_of_some {a : HostPort} {zone : Text} (h : a.givenZone = some zone) :
    Choice.hostWithZone a = a.host ++ '%' :: zone := by
  obtain ⟨host, _ | _ | ⟨c, more⟩, port⟩ := a
  · cases h
  · cases h
  · cases h
    rfl

/-- An address that is written out with a zone has this zone. -/
theorem zone_of_read? {a : HostPort} {x : Inet} (hpercent : '%' ∉ a.host)
    (h : Inet.read? (Choice.hostWithZone a) = some x) : x.zone.map Zone.text = a.givenZone := by
  cases hz : a.givenZone with
  | none =>
    rw [hostWithZone_of_none hz] at h
    rcases Inet.read?_cases h with ⟨n, -, rfl⟩ | ⟨n, -, rfl⟩ | ⟨address, n, zone, ht, -, -⟩
    · rfl
    · rfl
    · exact absurd (ht ▸ List.mem_append_right _ List.mem_cons_self) hpercent
  | some given =>
    rw [hostWithZone_of_some hz] at h
    have hmem : '%' ∈ a.host ++ '%' :: given := List.mem_append_right _ List.mem_cons_self
    rcases Inet.read?_cases h with ⟨n, hn, -⟩ | ⟨n, hn, -⟩ | ⟨address, n, zone, ht, hn, rfl⟩
    · exact absurd hmem (Inet.notMem_of_isLiteralChar (Inet.isLiteralChar_of_readOctets? hn)
        (by decide))
    · exact absurd hmem (Inet.percent_notMem_of_readGroups? hn)
    · -- both texts are cut at the same percent sign
      have hcut := congrArg (Text.cut '%') ht
      rw [Text.cut_append hpercent, Text.cut_append (Inet.percent_notMem_of_readGroups? hn)] at hcut
      cases hcut
      rfl

end HostPort

/-! ### What a text should do -/

/-- The name service answers at least one address for a hostname. -/
def NameService.Resolves (names : NameService) (t : Text) : Prop :=
  ∃ first rest, names t = .ok (first :: rest)

namespace Picker

variable {s : Settings} {names : NameService} {a : Address} {t : Text} {parts : HostPort}
  {port p : Int}

/-- With a socket at the given port, an address is advertised whatever the name service answers, and
nothing that is done depends on it. -/
def Settles (s : Settings) (port : Int) (shown : Address) : Prop :=
  ∀ a : Address, a.port = port → ∀ names, (advertise s names a).result = .ok shown ∧
    ∀ names', advertise s names' a = advertise s names a

/-- What a forced text does when it is read as some parts and the port `p` counts. A loopback name
and an address that is written out are advertised without the name service. Any other host is
advertised if it resolves, and the fault is that it does not otherwise. -/
structure AdvertisesExactly (s : Settings) (port : Int) (parts : HostPort) (p : Int) : Prop where
  loopback : parts.host ∈ Choice.loopbackNames → parts.givenZone = none →
    Settles s port ⟨parts.host, p, none⟩
  literal : (Inet.read? (Choice.hostWithZone parts)).isSome = true →
    Settles s port ⟨parts.host, p, parts.givenZone⟩
  name : ¬ (parts.host ∈ Choice.loopbackNames ∧ parts.givenZone = none) →
    Inet.read? (Choice.hostWithZone parts) = none →
    ∀ (a : Address) (names : NameService), a.port = port → names.AnswersAddresses →
      names.OnlyUnknown →
      ((∃ f, (advertise s names a).result = .error f ∧
          f.errorClass? = some .hostnameResolution) ↔
        ¬ names.Resolves (Choice.hostWithZone parts)) ∧
      (names.Resolves (Choice.hostWithZone parts) →
        ∃ x, names.DenotesFirst (Choice.hostWithZone parts) x ∧
          (advertise s names a).result = .ok ⟨parts.host, p, x.zone.map Zone.text⟩)

/-- What is advertised without the name service. -/
theorem settles_of_advertised? {d : Candidate}
    (h : ∀ names, Choice.advertised? s names port = pure (some d)) :
    Settles s port (d.toAddress d.endpoint.port) := by
  rintro a rfl names
  refine ⟨advertise_ok_iff.2 (.inr ⟨d, by rw [h]; rfl, rfl⟩), fun names' => ?_⟩
  rw [advertise, advertise, h, h]

/-- A fault of the address to advertise is a fault of the choice. -/
theorem advertise_error_iff {f : Fault} :
    (advertise s names a).result = .error f ↔
      (Choice.advertised? s names a.port).result = .error f := by
  rw [advertise, Logged.bind_error_iff]
  constructor
  · rintro (h | ⟨d, -, h⟩)
    · exact h
    · cases d <;> cases h
  · exact .inl

end Picker

namespace Choice

variable {s : Settings} {names : NameService} {t : Text} {parts : HostPort} {port : Int}

/-- A name of the loopback address is advertised as it stands. -/
theorem advertised?_of_loopbackName (hs : s.publicAddress = some (.text t))
    (ht : t ∈ loopbackNames) :
    advertised? s names port = pure (some (Candidate.of Inet.loopback (some t) port)) := by
  unfold advertised?
  rw [hs]
  dsimp only
  rw [if_pos (by simpa using ht)]

/-- Any other text is advertised as its host, when there is an address for it. -/
theorem advertised?_of_read (hs : s.publicAddress = some (.text t)) (ht : t ∉ loopbackNames)
    (hread : HostPort.read t (some port) = .ok parts) :
    advertised? s names port = (names.resolveOne (hostWithZone parts) >>= fun x =>
      pure (some (Candidate.of x (some parts.host) (parts.port.getD port)))) := by
  unfold advertised?
  rw [hs]
  dsimp only
  rw [if_neg (by simpa using ht), hread]
  rfl

end Choice

namespace NameService

variable {names : NameService} {t : Text}

/-- A hostname that resolves stands for its first answer. -/
theorem Resolves.exists_denotesFirst (h : names.Resolves t) (hn : names.AnswersAddresses)
    (hr : Inet.read? t = none) : ∃ x, names.DenotesFirst t x := by
  obtain ⟨first, rest, hanswers⟩ := h
  obtain ⟨x, hx⟩ := hn t _ hanswers first List.mem_cons_self
  exact ⟨x, .answered hr hanswers hx⟩

/-- A hostname that does not resolve is a fault of its own. -/
theorem exists_error_of_not_resolves (h : ¬ names.Resolves t) (hn : names.OnlyUnknown)
    (hr : Inet.read? t = none) :
    ∃ f, (names.resolveOne t).result = .error f ∧ f.errorClass? = some .hostnameResolution := by
  cases hresolve : (names.resolve t).result with
  | ok addresses => exact absurd (exists_cons_of_resolve hresolve) h
  | error f =>
    refine ⟨f, ?_, by simpa [Origins.isUnresolved] using hn.onlyUnresolved t f hresolve⟩
    rw [resolveOne, hr]
    exact Logged.bind_error_iff.2 (.inl hresolve)

end NameService

/-! ### What a text does -/

namespace Picker

section Text

variable {s : Settings} {names : NameService} {a : Address} {t : Text} {parts : HostPort}
  {port p : Int} {x : Inet}

/-- A name of the loopback address is its own host. -/
theorem read_of_loopbackName (ht : t ∈ Choice.loopbackNames) (port : Int) :
    HostPort.read t (some port) = .ok ⟨t, none, some port⟩ := by
  rcases List.mem_pair.1 ht with rfl | rfl <;> rfl

variable (hs : s.publicAddress = some (.text t))
  (hread : HostPort.read t (some port) = .ok parts) (hp : parts.port = some p)

include hs

theorem settles_of_loopbackName (ht : t ∈ Choice.loopbackNames) : Settles s port ⟨t, port, none⟩ :=
  settles_of_advertised? fun _ => Choice.advertised?_of_loopbackName hs ht

include hread

/-- The host of any other text needs an address. -/
theorem exists_denotesFirst_of_advertise (ha : a.port = port) (ht : t ∉ Choice.loopbackNames)
    {shown : Address} (h : (advertise s names a).result = .ok shown) :
    ∃ x, names.DenotesFirst (Choice.hostWithZone parts) x := by
  rcases advertise_ok_iff.1 h with ⟨hnone, -⟩ | ⟨d, hd, -⟩
  · rw [hs] at hnone
    cases hnone
  · rw [ha, Choice.advertised?_of_read hs ht hread] at hd
    obtain ⟨x, hx, -⟩ := Logged.bind_ok_iff.1 hd
    exact ⟨x, NameService.resolveOne_ok_iff.1 hx⟩

include hp

/-- With an address, the host is advertised with the port that counts. -/
theorem advertise_of_denotesFirst (ha : a.port = port) (ht : t ∉ Choice.loopbackNames)
    (hx : names.DenotesFirst (Choice.hostWithZone parts) x) :
    (advertise s names a).result = .ok ⟨parts.host, p, x.zone.map Zone.text⟩ := by
  refine advertise_ok_iff.2 (.inr ⟨Candidate.of x (some parts.host) p, ?_, rfl⟩)
  rw [ha, Choice.advertised?_of_read hs ht hread]
  exact Logged.bind_ok_iff.2 ⟨x, NameService.resolveOne_ok_iff.2 hx, by rw [hp]; rfl⟩

/-- An address that is written out is advertised without the name service. -/
theorem settles_of_read? (ht : t ∉ Choice.loopbackNames)
    (hx : Inet.read? (Choice.hostWithZone parts) = some x) :
    Settles s port ⟨parts.host, p, parts.givenZone⟩ := by
  have hsettles : Settles s port
      ((Candidate.of x (some parts.host) p).toAddress p) := by
    refine settles_of_advertised? fun names => ?_
    rw [Choice.advertised?_of_read hs ht hread, NameService.resolveOne, hx, hp]
    rfl
  rw [← HostPort.zone_of_read? (HostPort.percent_notMem_of_read hread) hx]
  exact hsettles

/-- A host that is no loopback name and no address is advertised exactly if it resolves. -/
theorem advertise_of_name (ha : a.port = port) (ht : t ∉ Choice.loopbackNames)
    (hr : Inet.read? (Choice.hostWithZone parts) = none) (hanswers : names.AnswersAddresses)
    (hunknown : names.OnlyUnknown) :
    ((∃ f, (advertise s names a).result = .error f ∧
        f.errorClass? = some .hostnameResolution) ↔
      ¬ names.Resolves (Choice.hostWithZone parts)) ∧
    (names.Resolves (Choice.hostWithZone parts) →
      ∃ x, names.DenotesFirst (Choice.hostWithZone parts) x ∧
        (advertise s names a).result = .ok ⟨parts.host, p, x.zone.map Zone.text⟩) := by
  have hok : names.Resolves (Choice.hostWithZone parts) →
      ∃ x, names.DenotesFirst (Choice.hostWithZone parts) x ∧
        (advertise s names a).result = .ok ⟨parts.host, p, x.zone.map Zone.text⟩ := by
    intro hresolves
    obtain ⟨x, hx⟩ := hresolves.exists_denotesFirst hanswers hr
    exact ⟨x, hx, advertise_of_denotesFirst hs hread hp ha ht hx⟩
  refine ⟨⟨?_, fun hnot => ?_⟩, hok⟩
  · rintro ⟨f, hf, -⟩ hresolves
    obtain ⟨x, -, hx⟩ := hok hresolves
    rw [hf] at hx
    cases hx
  · obtain ⟨f, hf, hclass⟩ := NameService.exists_error_of_not_resolves hnot hunknown hr
    refine ⟨f, advertise_error_iff.2 ?_, hclass⟩
    rw [ha, Choice.advertised?_of_read hs ht hread]
    exact Logged.bind_error_iff.2 (.inl hf)

omit hp

/-- The name `localhost` is looked up when there is something around it. -/
theorem not_settles_localhost (ht : t ∉ Choice.loopbackNames)
    (hhost : parts.host = "localhost".toList) (hzone : parts.givenZone = none)
    (shown : Address) : ¬ Settles s port shown := by
  intro h
  obtain ⟨hok, -⟩ := h ⟨[], port, none⟩ rfl (.ofTable [])
  obtain ⟨x, hx⟩ := exists_denotesFirst_of_advertise hs hread rfl ht hok
  rw [HostPort.hostWithZone_of_none hzone, hhost] at hx
  cases hx with
  | written hr => cases hr
  | answered _ hn _ => cases hn

end Text

/-- A text that forces the address to advertise is read as a host with a zone and a port, unless a
port has too many digits. The port is the first that the text carries, if it carries ports and none
is above the highest, and otherwise that of the socket. The text does exactly what it should, unless
its host is `localhost`, without a zone, and the text is more than that: this host alone is looked
up although it is a loopback name. -/
theorem advertisesExactly_iff {s : Settings} {t : Text} {port : Int}
    (hs : s.publicAddress = some (.text t))
    (hdigits : ∀ digits, HostPort.split t ≠ .error (.overlongNumeral digits)) :
    ∃ parts p, HostPort.read t (some port) = .ok parts ∧ parts.port = some p ∧
      (∀ ports, HostPort.Carries (Text.trim t) ports →
        p = (ports.number?.map Int.ofNat).getD port) ∧
      ((∀ ports, ¬ HostPort.Carries (Text.trim t) ports) → p = port) ∧
      (AdvertisesExactly s port parts p ↔
        (parts.host = "localhost".toList → parts.givenZone = none → t = "localhost".toList)) := by
  obtain ⟨parts', hsplit⟩ := HostPort.exists_split hdigits
  have hread : HostPort.read t (some port) = .ok (parts'.orPort (some port)) := by
    rw [HostPort.read, hsplit]
    rfl
  obtain ⟨parts, hparts⟩ : ∃ parts, parts = parts'.orPort (some port) := ⟨_, rfl⟩
  rw [← hparts] at hread
  obtain ⟨p, hp, hcarried, hmissing⟩ := HostPort.port_of_read hread
  refine ⟨parts, p, hread, hp, hcarried, hmissing, fun h hhost hzone => ?_, fun hlocal => ?_⟩
  · -- a loopback name is its own host, so the text is not one of them if it is not `localhost`
    by_contra hne
    have ht : t ∉ Choice.loopbackNames := by
      intro hmem
      obtain rfl : (⟨t, none, some port⟩ : HostPort) = parts :=
        Except.ok.inj ((read_of_loopbackName hmem port).symm.trans hread)
      exact hne hhost
    have hmem : parts.host ∈ Choice.loopbackNames := by
      rw [hhost]
      decide
    exact not_settles_localhost hs hread ht hhost hzone _ (h.loopback hmem hzone)
  · by_cases ht : t ∈ Choice.loopbackNames
    · obtain rfl : (⟨t, none, some port⟩ : HostPort) = parts :=
        Except.ok.inj ((read_of_loopbackName ht port).symm.trans hread)
      obtain rfl : port = p := Option.some.inj hp
      have hsettles : Settles s port ⟨t, port, none⟩ := settles_of_loopbackName hs ht
      exact ⟨fun _ _ => hsettles, fun _ => hsettles, fun hnot => absurd ⟨ht, rfl⟩ hnot⟩
    · refine ⟨fun hmem hzone => ?_, fun hliteral => ?_, fun _ hr a names ha hanswers hunknown =>
        advertise_of_name hs hread hp ha ht hr hanswers hunknown⟩
      · rcases List.mem_pair.1 hmem with hhost | hhost
        · have hx : Inet.read? (Choice.hostWithZone parts) = some .loopback := by
            rw [HostPort.hostWithZone_of_none hzone, hhost]
            exact Inet.read?_loopback
          have hsettles := settles_of_read? hs hread hp ht hx
          rwa [hzone] at hsettles
        · exact absurd (hlocal hhost hzone) fun he => ht (by rw [he]; decide)
      · obtain ⟨x, hx⟩ := Option.isSome_iff_exists.1 hliteral
        exact settles_of_read? hs hread hp ht hx

/-- Settings that force the address to advertise. -/
def advertising (t : Text) : Settings :=
  { Settings.default with publicAddress := some (.text t) }

/-- Groups in brackets with a zone and a port are advertised without the name service. -/
theorem advertisesExactly_iff_zoned :
    Settles (advertising "[fe80::2%eth1]:9999".toList) 5701
      ⟨"fe80::2".toList, 9999, some "eth1".toList⟩ := by
  have hs : (advertising "[fe80::2%eth1]:9999".toList).publicAddress =
      some (.text "[fe80::2%eth1]:9999".toList) := rfl
  obtain ⟨parts, p, hread, hp, -, -, hexact⟩ :=
    @advertisesExactly_iff _ _ 5701 hs fun digits h => by cases h
  cases hread
  cases hp
  exact (hexact.2 fun h => by cases h).literal (by decide +kernel)

/-- The name `localhost` with a port is looked up, and not advertised if it is not found. -/
theorem not_advertisesExactly_localhost :
    HostPort.read "localhost:5702".toList (some 5701) =
        .ok ⟨"localhost".toList, none, some 5702⟩ ∧
      ¬ AdvertisesExactly (advertising "localhost:5702".toList) 5701
        ⟨"localhost".toList, none, some 5702⟩ 5702 := by
  have hread : HostPort.read "localhost:5702".toList (some 5701) =
      .ok ⟨"localhost".toList, none, some 5702⟩ := rfl
  exact ⟨hread, fun h => not_settles_localhost rfl hread (by decide) rfl rfl _
    (h.loopback (by decide) rfl)⟩

end Picker

end MemberAddress
