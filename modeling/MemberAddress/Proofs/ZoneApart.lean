import MemberAddress.Proofs.Forced
import MemberAddress.Proofs.HostForms
import MemberAddress.Proofs.Printing

/-!
# Zones are kept apart from hosts

An address that is picked has the zone of its internet address beside its host and not in it
(`Address.KeepsZoneApart`). This holds of every source of a host but one: a forced address is shown
as it was given, with its zone.

* `HostPort.percent_notMem_of_split` and `Inet.percent_notMem_hostText` say so of hosts that were
  read and of internet addresses, `Choice.percent_mem_iff` of the address to bind to;
* `HostPort.reads_text_iff` says which addresses can be read back from their texts;
* `Picker.keepsZoneApart_of_pick` puts them together for a whole pick.
-/

namespace MemberAddress

/-- An address shows an internet address with the zone beside the host. -/
structure Address.KeepsZoneApart (a : Address) (x : Inet) : Prop where
  percent_notMem : '%' ∉ a.host
  zone : a.zone = x.zone.map Zone.text

/-! ### Hosts that were read -/

namespace HostPort

variable {t : Text} {parts : HostPort} {default : Option Int}

theorem le_of_readPort {n : Nat} (h : readPort t = .ok (some n)) : n ≤ maxPort := by
  unfold readPort at h
  split at h
  · cases h
  · split at h
    · cases h
    · cases h
    · next first last _ _ =>
      by_cases hlt : maxPort < first ∨ maxPort < last
      · simp [hlt] at h
      · obtain rfl : first = n := by simpa [hlt] using h
        omega

/-- A text that can be taken apart is some host with its zone taken off, with a port that is not
above the highest, if there is a port. -/
theorem exists_ofHost_of_split (h : split t = .ok parts) :
    ∃ host port, parts = ofHost host port ∧ ∀ n, port = some n → n ≤ maxPort := by
  rcases splitTrimmed_cases h with ⟨host, rfl⟩ | ⟨host, rest, port, hp, rfl, -⟩
  · exact ⟨host, none, rfl, fun n hn => by cases hn⟩
  · exact ⟨host, port, rfl, fun n hn => le_of_readPort (hn ▸ hp)⟩

/-- There is no percent sign in a host that was read: its zone was taken off. -/
theorem percent_notMem_of_split (h : split t = .ok parts) : '%' ∉ parts.host := by
  obtain ⟨host, port, rfl, -⟩ := exists_ofHost_of_split h
  exact Text.notMem_before '%' host

/-- An address is read as its host, zone and port, and the default stands for a missing port. -/
theorem exists_split_of_read (h : read t default = .ok parts) :
    ∃ parts', split t = .ok parts' ∧ parts = parts'.orPort default := by
  unfold read at h
  cases hs : split t with
  | error f =>
    rw [hs] at h
    cases h
  | ok parts' =>
    rw [hs] at h
    exact ⟨parts', rfl, (Except.ok.inj h).symm⟩

theorem percent_notMem_of_read (h : read t default = .ok parts) : '%' ∉ parts.host := by
  obtain ⟨parts', hs, rfl⟩ := exists_split_of_read h
  show '%' ∉ parts'.host
  exact percent_notMem_of_split hs

/-- With a default port, a port is read; it is the default or one that was given within range. -/
theorem exists_port_of_read {port : Int} (h : read t (some port) = .ok parts) :
    ∃ n, parts.port = some n ∧ (n = port ∨ 0 ≤ n ∧ n ≤ maxPort) := by
  obtain ⟨parts', hs, rfl⟩ := exists_split_of_read h
  obtain ⟨host, given, rfl, hle⟩ := exists_ofHost_of_split hs
  cases given with
  | none => exact ⟨port, rfl, .inl rfl⟩
  | some n => exact ⟨n, rfl, .inr ⟨Int.natCast_nonneg n, Int.ofNat_le.2 (hle n rfl)⟩⟩

/-- A host without blanks and brackets. -/
def IsPlain (host : Text) : Prop := ∀ c ∈ host, Text.isBlank c = false ∧ c ≠ '[' ∧ c ≠ ']'

/-- An address with such a host can be read back from its text exactly when there is no percent sign
in the host. -/
theorem reads_text_iff {a : Address} (hplain : IsPlain a.host) (h0 : 0 ≤ a.port)
    (hmax : a.port ≤ maxPort) (default : Option Int) :
    read a.text default = .ok ⟨a.host, none, some a.port⟩ ↔ '%' ∉ a.host := by
  constructor
  · exact fun h => percent_notMem_of_read h
  · intro hpercent
    refine read_text (fun c hc => ?_) h0 hmax default
    obtain ⟨hblank, hopen, hclose⟩ := hplain c hc
    have hne : c ≠ '%' := fun he => hpercent (he ▸ hc)
    simp [isHostChar, hblank, hopen, hclose, hne]

end HostPort

/-! ### Internet addresses in text -/

/-- The text of an internet address without its zone has no percent sign. -/
theorem Inet.percent_notMem_hostText (x : Inet) : '%' ∉ x.hostText := by
  have hread : read? x.hostText = some x.bare := by
    have htext : x.bare.text = x.hostText := by cases x <;> rfl
    rw [← htext, read?_text]
  rcases read?_cases hread with ⟨n, hn, -⟩ | ⟨n, hn, -⟩ | ⟨address, n, zone, -, -, hx⟩
  · exact notMem_of_isLiteralChar (isLiteralChar_of_readOctets? hn) (by decide)
  · exact percent_notMem_of_readGroups? hn
  · cases x <;> cases hx

/-! ### The address to bind to -/

namespace Choice

variable {s : Settings} {env : Surroundings} {names : NameService} {c d : Candidate} {port : Int}

theorem percent_notMem_of_mem_loopbackNames {t : Text} (h : t ∈ loopbackNames) : '%' ∉ t := by
  rw [loopbackNames, List.mem_pair] at h
  rcases h with rfl | rfl <;> decide

/-- A candidate that is not forced shows a host of the members or the internet address itself. -/
theorem percent_notMem_of_not_forced (hl : s.localAddress = none)
    (h : (bind s env).result = .ok c) : '%' ∉ (c.toAddress port).host := by
  show '%' ∉ c.host.getD c.inet.hostText
  cases hhost : c.host with
  | none => exact c.inet.percent_notMem_hostText
  | some host =>
    obtain ⟨pool, d, hd, hfix⟩ := isFromPool_of_host hl h (by simp [hhost])
    obtain ⟨e, he, -, hde⟩ := exists_entry_of_poolGives hd
    have hehost : e.host = some host := by rw [← hde, ← (of_fixZone hfix).2, hhost]
    obtain ⟨⟨entries, -, entry, -, parts, hparts, rfl⟩, -⟩ := Pool.hasHost_of_mem hd.1 he hehost
    exact HostPort.percent_notMem_of_split hparts

/-- The host of an address to bind to has a percent sign only if it is a forced address that has
one. -/
theorem percent_mem_iff (h : (bind s env).result = .ok c) :
    '%' ∈ (c.toAddress port).host ↔ ∃ t, s.localAddress = some t ∧ '%' ∈ t := by
  cases hl : s.localAddress with
  | none => simp [percent_notMem_of_not_forced hl h]
  | some t =>
    have hc := (bind_forced_ok_iff hl).1 h
    by_cases ht : t ∈ loopbackNames
    · rw [if_pos ht] at hc
      have hloop : '%' ∉ (c.toAddress port).host := by
        rw [hc]
        exact Inet.loopback.percent_notMem_hostText
      simp [hloop, percent_notMem_of_mem_loopbackNames ht]
    · rw [if_neg ht] at hc
      obtain ⟨x, y, -, -, rfl⟩ := hc
      simp [Candidate.toAddress]

/-! ### The address to advertise -/

/-- No address is advertised on its own exactly when none is forced. -/
theorem advertised?_ok_none_iff :
    (advertised? s names port).result = .ok none ↔ s.publicAddress = none := by
  unfold advertised?
  split
  · next hp => simp [hp]
  · next address hp =>
    split
    · simp [hp]
    · simp only [hp, Logged.bind_ok_iff]
      simp
  · next hp => simp [hp]

/-- A forced address to advertise is shown with a host that was read, and with the port that was
given or that of the socket. -/
theorem of_advertised? (h : (advertised? s names port).result = .ok (some d)) :
    (∃ host, d.host = some host ∧ '%' ∉ host) ∧
      (d.endpoint.port = port ∨ 0 ≤ d.endpoint.port ∧ d.endpoint.port ≤ HostPort.maxPort) := by
  unfold advertised? at h
  split at h
  · cases h
  · next address _ =>
    split at h
    · next hloop =>
      cases h
      have hmem : address ∈ loopbackNames := by simpa using hloop
      exact ⟨⟨address, rfl, percent_notMem_of_mem_loopbackNames hmem⟩, .inl rfl⟩
    · obtain ⟨parts, hparts, h⟩ := Logged.bind_ok_iff.1 h
      obtain ⟨x, -, h⟩ := Logged.bind_ok_iff.1 h
      cases h
      obtain ⟨n, hn, hrange⟩ := HostPort.exists_port_of_read hparts
      refine ⟨⟨parts.host, rfl, HostPort.percent_notMem_of_read hparts⟩, ?_⟩
      have hport : (Candidate.of x (some parts.host) (parts.port.getD port)).endpoint.port = n := by
        rw [hn]
        rfl
      rw [hport]
      exact hrange
  · cases h

end Choice

/-! ### The pick -/

/-- A candidate keeps the zone apart when there is no percent sign in its host. -/
theorem Candidate.keepsZoneApart_iff {c : Candidate} {port : Int} :
    (c.toAddress port).KeepsZoneApart c.inet ↔ '%' ∉ (c.toAddress port).host :=
  ⟨fun h => h.percent_notMem, fun h => ⟨h, rfl⟩⟩

namespace Picker

variable {σ : Type} {os : SocketSystem σ} {opener : Opener σ} {p q : Picker} {env : Surroundings}
  {s : Settings} {names : NameService} {a b : Address} {session session' : Session σ}

/-- The address to advertise is the one that is forced, or else the bind address. -/
theorem advertise_ok_iff :
    (advertise s names a).result = .ok b ↔
      s.publicAddress = none ∧ b = a ∨
        ∃ d, (Choice.advertised? s names a.port).result = .ok (some d) ∧
          b = d.toAddress d.endpoint.port := by
  rw [advertise, Logged.bind_ok_iff]
  constructor
  · rintro ⟨found, hf, h⟩
    cases found with
    | none =>
      cases h
      exact .inl ⟨Choice.advertised?_ok_none_iff.1 hf, rfl⟩
    | some d =>
      cases h
      exact .inr ⟨d, hf, rfl⟩
  · rintro (⟨hs, rfl⟩ | ⟨d, hd, rfl⟩)
    · exact ⟨none, Choice.advertised?_ok_none_iff.2 hs, rfl⟩
    · exact ⟨some d, hd, rfl⟩

/-- A pick that succeeds keeps the zones apart. The bind address has the zone of its internet
address beside its host, unless an address with a percent sign is forced; the advertised address is
the bind address or has the zone of its own internet address beside its host. As ports of sockets
are in range, both can be read back from their texts just when there is no percent sign in their
hosts, if these have neither blanks nor brackets. -/
theorem keepsZoneApart_of_pick (hfirst : ¬ p.HasPicked)
    (hpick : p.pick env os opener session = (.ok (), q, session')) :
    ∃ c socket session₁ a b, p.Opens env opener session c (.ok socket) session₁ ∧
      q.bindAddress = some a ∧ q.publicAddress = some b ∧ a.port = socket.address.port ∧
      (a.KeepsZoneApart c.inet ↔ ∀ t, p.settings.localAddress = some t → '%' ∉ t) ∧
      (p.settings.publicAddress = none ∧ b = a ∨
        ∃ d, (Choice.advertised? p.settings env.names a.port).result = .ok (some d) ∧
          b.KeepsZoneApart d.inet) ∧
      (0 ≤ socket.address.port → socket.address.port ≤ HostPort.maxPort →
        ∀ e ∈ [a, b], HostPort.IsPlain e.host → ∀ default,
          (HostPort.read e.text default = .ok ⟨e.host, none, some e.port⟩ ↔ '%' ∉ e.host)) := by
  obtain ⟨c, socket, session₁, b, ho, hb, hbind, hpublic⟩ := advertises_of_pick_ok hfirst hpick
  rw [advertise_ok_iff] at hb
  refine ⟨c, socket, session₁, _, b, ho, hbind, hpublic, rfl, ?_, ?_, ?_⟩
  · rw [Candidate.keepsZoneApart_iff, Choice.percent_mem_iff ho.1]
    simp
  · refine hb.imp_right fun ⟨d, hd, hbd⟩ => ⟨d, hd, ?_⟩
    obtain ⟨host, hhost, hpercent⟩ := (Choice.of_advertised? hd).1
    rw [hbd, Candidate.keepsZoneApart_iff]
    show '%' ∉ d.host.getD d.inet.hostText
    rwa [hhost]
  · intro h0 hmax e hmem hplain default
    -- a port that is advertised is that of the socket, or was given within range
    have hrange : 0 ≤ e.port ∧ e.port ≤ HostPort.maxPort := by
      rcases List.mem_pair.1 hmem with rfl | rfl
      · exact ⟨h0, hmax⟩
      · rcases hb with ⟨-, rfl⟩ | ⟨d, hd, rfl⟩
        · exact ⟨h0, hmax⟩
        · rcases (Choice.of_advertised? hd).2 with hport | hport
          · exact ⟨hport ▸ h0, hport ▸ hmax⟩
          · exact hport
    exact HostPort.reads_text_iff hplain hrange.1 hrange.2 default

/-- A host with the one address `fe80::1`. -/
def linkLocal : Surroundings :=
  .ofTables [] [.up "eth0".toList [.v6 0xfe800000000000000000000000000001 none]]

/-- Settings that force the address to bind to, and to advertise `fe80::2` of the zone `eth1`. -/
def forcing (address : Text) : Settings :=
  { Settings.default with
    localAddress := some address
    publicAddress := some (.text "[fe80::2%eth1]:9999".toList) }

/-- The zone that a local address gets from its interface, and the zone of an advertised address,
stand beside the hosts; both addresses can be read back. -/
theorem keepsZoneApart_of_pick_linkLocal :
    let bound : Address := ⟨"fe80::1".toList, 5701, some "eth0".toList⟩
    let advertised : Address := ⟨"fe80::2".toList, 9999, some "eth1".toList⟩
    let picked := (firstPick (forcing "fe80::1".toList) linkLocal).2.1
    picked.bindAddress = some bound ∧ picked.publicAddress = some advertised ∧
    (∃ c, (Choice.bind (forcing "fe80::1".toList) linkLocal).result = .ok c ∧
      bound.KeepsZoneApart c.inet) ∧
    HostPort.read bound.text none = .ok ⟨"fe80::1".toList, none, some 5701⟩ ∧
    HostPort.read advertised.text none = .ok ⟨"fe80::2".toList, none, some 9999⟩ := by
  intro bound advertised picked
  have hbind : picked.bindAddress = some bound := by decide +kernel
  have hpublic : picked.publicAddress = some advertised := by decide +kernel
  obtain ⟨c, socket, session₁, a, b, ho, ha, hb, hport, happart, -, hread⟩ :=
    keepsZoneApart_of_pick (by decide)
      (firstPick_eq_ok (forcing "fe80::1".toList) linkLocal (by decide +kernel))
  obtain rfl : bound = a := Option.some.inj (hbind.symm.trans ha)
  obtain rfl : advertised = b := Option.some.inj (hpublic.symm.trans hb)
  have hforced : ∀ t, (forcing "fe80::1".toList).localAddress = some t → '%' ∉ t := by
    rintro t ⟨⟩
    decide
  have hport : socket.address.port = 5701 := hport.symm
  have hread := hread (by rw [hport]; decide) (by rw [hport]; decide)
  have hplain {host : Text} (h : host.all (fun c => !Text.isBlank c && c != '[' && c != ']')) :
      HostPort.IsPlain host := fun c hc => by simpa [and_assoc] using List.all_eq_true.1 h c hc
  exact ⟨hbind, hpublic, ⟨c, ho.1, happart.2 hforced⟩,
    (hread bound List.mem_cons_self (hplain (by decide)) none).2 (by decide),
    (hread advertised (List.mem_cons_of_mem _ List.mem_cons_self) (hplain (by decide)) none).2
      (by decide)⟩

/-- A forced address is shown with its zone, so that its text is read back as another host. -/
theorem not_keepsZoneApart_forced :
    ∃ a, (firstPick (forcing "fe80::1%eth0".toList) linkLocal).1.toOption = some () ∧
      (firstPick (forcing "fe80::1%eth0".toList) linkLocal).2.1.bindAddress = some a ∧
      '%' ∈ a.host ∧ a.zone = some "eth0".toList ∧
      HostPort.read a.text none = .ok ⟨"fe80::1".toList, some "eth0".toList, some 5701⟩ ∧
      a.host ≠ "fe80::1".toList :=
  ⟨⟨"fe80::1%eth0".toList, 5701, some "eth0".toList⟩, by decide +kernel, by decide +kernel,
    by decide, rfl, Except.eq_ok_of_toOption (by decide +kernel), by decide⟩

end Picker

end MemberAddress
