import MemberAddress.Proofs.Printing
import MemberAddress.Proofs.ShownHost

/-!
# When the loopback address is chosen unseen

Settings that name the loopback address get it without a look at the interfaces, with one exception:
a hostname of the members that is resolved to it takes its place in the pool, and then the
interfaces decide.

* `Inet.hostText_of_readV4?` says that an address of four octets is written in one way only;
* `Settings.NamesLoopback` says how settings name the loopback address, `Settings.AskForLoopback`
  adds that no hostname is resolved to it;
* `Choice.asksForLoopback_iff` says that the pool asks for it just then, and
  `Choice.chooses_loopback_iff` that this decides the choice on every host.
-/

namespace MemberAddress

/-! ### The text of an address of four octets -/

namespace Inet

/-- An address of four octets has no text but the one that is printed. -/
theorem hostText_of_readV4? {t : Text} {x : Inet} (h : readV4? t = some x) : t = x.hostText := by
  obtain ⟨n, hn, rfl⟩ := Option.map_eq_some_iff.1 h
  obtain ⟨hlen, ns, hns, rfl⟩ := readOctets?_eq_some_iff.1 hn
  have hall := mapM_eq_some_iff.1 hns
  have hparts : Text.fields '.' t = ns.map Text.decimal := by
    rw [← List.forall₂_eq_eq_eq, List.forall₂_map_right_iff]
    exact hall.imp fun _ _ => decimal_of_readOctet?
  have hbound : ∀ m ∈ ns, m < Version.v4.groupBase := fun m hm => by
    obtain ⟨p, hp⟩ := exists_of_forall₂ hall hm
    exact Nat.lt_succ_of_le (numeral?_of_readOctet? hp).2.2
  have hcount : ns.length = Version.v4.groupCount := hall.length_eq.symm.trans hlen
  have hgroups : (ofNumber .v4 (ofDigitsIn 256 ns)).groups = ns :=
    (groups_eq_iff hcount hbound).2 (number_ofNumber_ofDigitsIn hcount hbound)
  show t = List.intercalate ['.'] ((ofNumber .v4 (ofDigitsIn 256 ns)).groups.map Text.decimal)
  rw [hgroups, ← hparts, Text.intercalate_fields]

theorem read?_loopback : read? "127.0.0.1".toList = some loopback := by decide

/-- The loopback address has one text. -/
theorem eq_of_read?_loopback {t : Text} (h : read? t = some loopback) : t = "127.0.0.1".toList := by
  rcases read?_cases h with ⟨n, hn, hx⟩ | ⟨n, -, hx⟩ | ⟨address, n, zone, -, -, hx⟩
  · have hread : readV4? t = some loopback := by rw [readV4?, hn, hx]; rfl
    rw [hostText_of_readV4? hread]
    decide
  · cases hx
  · cases hx

end Inet

theorem Pattern.isPattern_loopback : isPattern "127.0.0.1".toList = true :=
  isPattern_of_selects ((selects_of_read? Inet.read?_loopback).2 rfl)

/-! ### The pool -/

/-- The settings name the loopback address: it is a configured interface, blanks aside, or, when no
interfaces are configured, a host of the members. -/
def Settings.NamesLoopback (s : Settings) : Prop :=
  (s.interfacesEnabled = true ∧ ∃ t, .text t ∈ s.interfaces ∧ Text.trim t = "127.0.0.1".toList) ∨
    (s.interfacesEnabled = false ∧ s.membersEnabled = true ∧
      MemberList.HasHost s.members "127.0.0.1".toList)

/-- The settings name the loopback address, and no hostname of the members is resolved to it. -/
def Settings.AskForLoopback (s : Settings) (names : NameService) : Prop :=
  s.NamesLoopback ∧ ∀ host, ¬ IsResolvedTo s names host Inet.loopback

section Map

variable {s : Settings} {names : NameService} {hosts : List Text} {origins : Origins}
  (hn : names.AnswersAddresses)
  (hh : ∀ host, host ∈ hosts ↔ s.membersEnabled = true ∧ MemberList.HasHost s.members host)
  (ht : Origins.Traces names hosts origins)

include hn hh ht

/-- The loopback address stands in the map with a hostname exactly when some hostname is resolved to
it. -/
theorem exists_loopback_mem_iff :
    (∃ host, ("127.0.0.1".toList, some host) ∈ origins) ↔
      ∃ host, IsResolvedTo s names host Inet.loopback := by
  constructor
  · rintro ⟨host, hm⟩
    obtain ⟨x, hx, hr⟩ := isResolvedTo_of_mem hn hh ht hm
    obtain rfl : Inet.loopback = x := Option.some.inj (Inet.read?_loopback.symm.trans hx)
    exact ⟨host, hr⟩
  · rintro ⟨host, hr⟩
    obtain ⟨a, host', ha, hm⟩ := exists_mem_of_isResolvedTo hh ht hr
    rw [Inet.eq_of_read?_loopback ha] at hm
    exact ⟨host', hm⟩

/-- As a pattern, the loopback address gets a hostname exactly when some hostname is resolved to
it. -/
theorem hostFor_loopback_eq_none_iff :
    origins.hostFor "127.0.0.1".toList = none ↔
      ∀ host, ¬ IsResolvedTo s names host Inet.loopback := by
  rw [← not_exists, ← exists_loopback_mem_iff hn hh ht]
  constructor
  · rintro hf ⟨host, hm⟩
    rw [Origins.hostFor_of_mem ht.nodup hm] at hf
    cases hf
  · intro hnone
    cases hf : origins.hostFor "127.0.0.1".toList with
    | none => rfl
    | some host =>
      -- whatever the pattern selects in the map has the text of the loopback address
      obtain ⟨a, hm, rfl | hsel⟩ := Origins.exists_mem_of_hostFor_some hf
      · exact absurd ⟨host, hm⟩ hnone
      · obtain ⟨x, hx, -⟩ := isResolvedTo_of_mem hn hh ht hm
        rw [Pattern.selectsText_of_read? hx, Pattern.selects_of_read? Inet.read?_loopback] at hsel
        have hloop : x = Inet.loopback := by
          cases x with
          | v4 bits => exact hsel
          | v6 bits zone => cases hsel
        rw [hloop] at hx
        rw [Inet.eq_of_read?_loopback hx] at hm
        exact absurd ⟨host, hm⟩ hnone

/-- The loopback address stands in the map without a hostname exactly when it is a host of the
members and no hostname is resolved to it. -/
theorem loopback_mem_iff :
    ("127.0.0.1".toList, none) ∈ origins ↔
      (s.membersEnabled = true ∧ MemberList.HasHost s.members "127.0.0.1".toList) ∧
        ∀ host, ¬ IsResolvedTo s names host Inet.loopback := by
  rw [← not_exists, ← exists_loopback_mem_iff hn hh ht, ← hh]
  constructor
  · intro hm
    refine ⟨(ht.literal _ hm).1, ?_⟩
    rintro ⟨host, hm'⟩
    cases Origins.eq_of_mem_of_nodup ht.nodup hm hm'
  · rintro ⟨hmem, hnone⟩
    obtain ⟨o, hm⟩ := Origins.exists_mem_of_mem_keys (ht.listed _ hmem Pattern.isPattern_loopback)
    cases o with
    | none => exact hm
    | some host => exact absurd ⟨host, hm⟩ hnone

end Map

namespace Choice

variable {s : Settings} {env : Surroundings} {pool : List PoolEntry}

/-- The pool asks for the loopback address exactly when the settings do. -/
theorem asksForLoopback_iff (env : Surroundings) (hn : env.names.AnswersAddresses)
    (hp : (Pool.ofSettings s env.names).result = .ok pool) :
    asksForLoopback pool = true ↔ s.AskForLoopback env.names := by
  have hmem : asksForLoopback pool = true ↔ ⟨"127.0.0.1".toList, none⟩ ∈ pool :=
    ⟨mem_of_asksForLoopback hp, fun h =>
      List.any_eq_true.2 ⟨"127.0.0.1".toList, by decide, by simpa using h⟩⟩
  obtain ⟨origins, ho, hpool⟩ := Pool.ofSettings_ok_iff.1 hp
  obtain ⟨hosts, hh, ht⟩ := Pool.traces_originsFor ho
  rw [hmem, Settings.AskForLoopback, Settings.NamesLoopback]
  cases hi : s.interfacesEnabled with
  | true =>
    rw [if_pos hi] at hpool
    rw [Pool.mem_addPatterns hpool, ← hostFor_loopback_eq_none_iff hn hh ht]
    constructor
    · rintro (h | ⟨t, htext, -, he⟩)
      · cases h
      · have htrim : "127.0.0.1".toList = Text.trim t := congrArg PoolEntry.address he
        have hhost : none = origins.hostFor (Text.trim t) := congrArg PoolEntry.host he
        rw [← htrim] at hhost
        exact ⟨.inl ⟨rfl, t, htext, htrim.symm⟩, hhost.symm⟩
    · rintro ⟨⟨-, t, htext, htrim⟩ | ⟨h, -⟩, hhost⟩
      · exact .inr ⟨t, htext, by rw [htrim, Pattern.isPattern_loopback], by rw [htrim, hhost]⟩
      · cases h
  | false =>
    rw [if_neg (by simp [hi])] at hpool
    subst hpool
    split
    · rw [Pool.mem_ofOrigins, loopback_mem_iff hn hh ht]
      simp
    · next hm => simp [hm]

/-! ### The choice -/

/-- The loopback address is chosen. -/
def ChoosesLoopback (s : Settings) (env : Surroundings) : Prop :=
  ∃ c, (bind s env).result = .ok c ∧ c.inet = Inet.loopback

/-- When the pool asks for the loopback address, nothing else is looked at. -/
theorem bind_of_asksForLoopback (hl : s.localAddress = none)
    (hp : (Pool.ofSettings s env.names).result = .ok pool) (ha : asksForLoopback pool = true) :
    (bind s env).result = .ok .loopback :=
  (bind_ok_iff hl).2 (.inl ⟨pool, .loopback, ⟨hp, by rw [if_pos ha]⟩, rfl⟩)

end Choice

/-- The listing of a host with the one address `10.0.0.7`. -/
def Listing.elsewhere : Listing := ⟨[], .ok [.up "eth0".toList [.v4 0x0a000007]]⟩

namespace Choice

variable {s : Settings} {env : Surroundings} {pool : List PoolEntry}

theorem inet_of_pick_elsewhere {c : Candidate}
    (h : (Scan.pick s pool .elsewhere).result = .ok (some c)) : c.inet = .v4 0x0a000007 := by
  obtain ⟨interfaces, hi, hmem, -⟩ := Scan.exists_listed_of_pick h
  cases hi
  simpa [Scan.reach, Interface.up, Interface.isSkipped] using hmem

/-- Without a pool, the only address is picked. -/
theorem pick_elsewhere_ne_none : (Scan.pick s [] .elsewhere).result ≠ .ok none := by
  intro h
  obtain ⟨interfaces, hi, hnone⟩ := Scan.pick_ok_iff.1 h
  cases hi
  have hmem : Candidate.of (.v4 0x0a000007) none 0 ∈
      Scan.qualified s [] (Scan.reach [] [.up "eth0".toList [.v4 0x0a000007]]) :=
    Scan.mem_qualified.2 ⟨.v4 0x0a000007, by decide, by simp [Scan.isAdmitted, Inet.version],
      by decide⟩
  have hsome := Scan.choose_isSome (s := s) (List.ne_nil_of_mem hmem)
  rw [← hnone] at hsome
  cases hsome

/-- On a host without the loopback address, only the pool can lead to it. -/
theorem asksForLoopback_of_elsewhere (hl : s.localAddress = none)
    (helse : env.listing = .elsewhere) (h : ChoosesLoopback s env) :
    ∃ pool, (Pool.ofSettings s env.names).result = .ok pool ∧ asksForLoopback pool = true := by
  obtain ⟨c, hc, hloop⟩ := h
  -- a scan finds the one address of the host, and fixing its zone makes no other address of it
  have hscan : ∀ {pool : List PoolEntry} {d : Candidate},
      (Scan.pick s pool env.listing).result = .ok (some d) →
      ¬ (fixZone env.listing d).result = .ok c := by
    intro pool d hd hz
    rw [helse] at hd
    have hbare := (of_fixZone hz).1
    rw [hloop, inet_of_pick_elsewhere hd] at hbare
    exact absurd hbare (by decide)
  rcases (bind_ok_iff hl).1 hc with ⟨pool, d, ⟨hp, hd⟩, hz⟩ | ⟨-, found, hw, hf⟩
  · by_cases ha : asksForLoopback pool = true
    · exact ⟨pool, hp, ha⟩
    · rw [if_neg ha] at hd
      exact absurd hz (hscan hd.2)
  · rw [result_withoutMatch] at hw
    split at hw
    · cases hw
    · cases found with
      | some d => exact absurd hf (hscan hw)
      | none =>
        rw [helse] at hw
        exact absurd hw pick_elsewhere_ne_none

/-- Settings that can be read choose the loopback address without a look at the interfaces exactly
when they name it and no hostname of the members is resolved to it. In all other cases they do not
choose it on a host that has another address and not this one. -/
theorem chooses_loopback_iff (s : Settings) (names : NameService) (hl : s.localAddress = none)
    (htexts : ∀ v ∈ s.interfaces, ∃ t, v = .text t) (hmembers : s.HasReadableMembers names)
    (hn : names.AnswersAddresses) :
    ((∀ l, (bind s ⟨names, l⟩).result = .ok .loopback) ↔ s.AskForLoopback names) ∧
      (ChoosesLoopback s ⟨names, .elsewhere⟩ ↔ s.AskForLoopback names) := by
  have hasks : ChoosesLoopback s ⟨names, .elsewhere⟩ → s.AskForLoopback names := fun h => by
    obtain ⟨pool, hp, ha⟩ := asksForLoopback_of_elsewhere hl rfl h
    exact (asksForLoopback_iff ⟨names, .elsewhere⟩ hn hp).1 ha
  have hbind : s.AskForLoopback names → ∀ l, (bind s ⟨names, l⟩).result = .ok .loopback :=
    fun h l => by
      obtain ⟨pool, hp⟩ := Pool.exists_ofSettings htexts hmembers
      exact bind_of_asksForLoopback hl hp ((asksForLoopback_iff ⟨names, l⟩ hn hp).2 h)
  have hchooses (h : ∀ l, (bind s ⟨names, l⟩).result = .ok .loopback) :
      ChoosesLoopback s ⟨names, .elsewhere⟩ := ⟨.loopback, h .elsewhere, rfl⟩
  exact ⟨⟨fun h => hasks (hchooses h), hbind⟩, ⟨hasks, fun h => hchooses (hbind h)⟩⟩

/-- A name service that knows one hostname, by one address. -/
def knowingOne (host address : Text) : NameService := .ofTable [(host, [address])]

theorem eq_of_isResolvedTo_knowingOne {host host' address : Text} {x y : Inet}
    (h : IsResolvedTo s (knowingOne host address) host' y) (hx : Inet.read? address = some x) :
    y = x := by
  obtain ⟨-, -, -, answers, hr, a, ha, hy⟩ := h
  obtain ⟨all, hall, hmem⟩ := mem_of_resolve hr ha
  unfold knowingOne NameService.ofTable at hall
  split at hall
  · next found hl =>
    cases hall
    obtain ⟨l₁, l₂, he, -⟩ := List.lookup_eq_some_iff.1 hl
    have hfound : (host', all) ∈ [(host, [address])] := by simp [he]
    obtain ⟨-, rfl⟩ := Prod.mk.inj (List.mem_singleton.1 hfound)
    rw [List.mem_singleton.1 hmem, hx] at hy
    exact (Option.some.inj hy).symm
  · cases hall

/-- A configured loopback address is chosen beside a member `web` that is resolved to another
address. -/
theorem chooses_loopback_iff_web :
    (Settings.ofLists [" 127.0.0.1".toList] ["web".toList]).AskForLoopback
      (knowingOne "web".toList "10.0.0.9".toList) ∧
    ∀ l, (bind (.ofLists [" 127.0.0.1".toList] ["web".toList])
      ⟨knowingOne "web".toList "10.0.0.9".toList, l⟩).result = .ok .loopback := by
  have hread : Inet.read? "10.0.0.9".toList = some (.v4 0x0a000009) := by decide +kernel
  have hask : (Settings.ofLists [" 127.0.0.1".toList] ["web".toList]).AskForLoopback
      (knowingOne "web".toList "10.0.0.9".toList) :=
    ⟨.inl ⟨rfl, " 127.0.0.1".toList, List.mem_singleton.2 rfl, by decide⟩,
      fun host hr => absurd (eq_of_isResolvedTo_knowingOne hr hread) (by decide)⟩
  exact ⟨hask, (chooses_loopback_iff (.ofLists [" 127.0.0.1".toList] ["web".toList])
    (knowingOne "web".toList "10.0.0.9".toList) rfl
    (fun v hv => ⟨" 127.0.0.1".toList, List.mem_singleton.1 hv⟩)
    (Settings.hasReadableMembers_ofLists _ (NameService.onlyUnresolved_ofTable _) rfl
      (by decide +kernel))
    (NameService.answersAddresses_ofTable (by decide +kernel))).1.2 hask⟩

/-- A member `localhost` that is resolved to the loopback address does not make the choice fall on
it, and takes it away from a configured loopback address. -/
theorem not_choosesLoopback_localhost :
    MemberList.HasHost (Settings.ofLists [] ["localhost".toList]).members "localhost".toList ∧
    ((knowingOne "localhost".toList "127.0.0.1".toList).resolve "localhost".toList).result =
      .ok ["127.0.0.1".toList] ∧
    ¬ ChoosesLoopback (.ofLists [] ["localhost".toList])
      ⟨knowingOne "localhost".toList "127.0.0.1".toList, .elsewhere⟩ ∧
    ¬ ChoosesLoopback (.ofLists ["127.0.0.1".toList] ["localhost".toList])
      ⟨knowingOne "localhost".toList "127.0.0.1".toList, .elsewhere⟩ := by
  have hfound : (bind (.ofLists [] ["localhost".toList])
      ⟨knowingOne "localhost".toList "127.0.0.1".toList, .elsewhere⟩).result.toOption.map
        Candidate.inet = some (.v4 0x0a000007) := by
    decide +kernel
  have hnone : (bind (.ofLists ["127.0.0.1".toList] ["localhost".toList])
      ⟨knowingOne "localhost".toList "127.0.0.1".toList, .elsewhere⟩).result.toOption = none := by
    decide +kernel
  refine ⟨⟨["localhost".toList], rfl, _, List.mem_singleton.2 rfl, _, rfl, rfl⟩, rfl, ?_, ?_⟩
  · rintro ⟨c, hc, hx⟩
    rw [hc] at hfound
    have hinet : c.inet = .v4 0x0a000007 := Option.some.inj hfound
    exact absurd (hx.symm.trans hinet) (by decide)
  · rintro ⟨c, hc, -⟩
    rw [hc] at hnone
    cases hnone

end Choice

end MemberAddress
