import MemberAddress.Proofs.Picking

/-!
# The host that is shown

A bind address shows a hostname instead of an internet address when it comes from a pool entry with
a hostname. What such a hostname has to do with the address depends on the pool.

* In a pool of members, the hostname was resolved to the very address, but for its zone.
* In a pool of patterns, the hostname was resolved to some address that the pattern selects, which
  may be another address (`shown_host_is_not_exact`).

A hostname that could be shown is left out only for a member that is itself an address or a
pattern. `shownHost_of_pick` puts both together.
-/

namespace MemberAddress

/-- A name service that answers every question with addresses. -/
def NameService.AnswersAddresses (names : NameService) : Prop :=
  ∀ host answers, names host = .ok answers → ∀ a ∈ answers, ∃ x, Inet.read? a = some x

/-- A hostname of the members that the name service resolves to an address. -/
def IsResolvedTo (s : Settings) (names : NameService) (host : Text) (x : Inet) : Prop :=
  s.membersEnabled = true ∧ MemberList.HasHost s.members host ∧ Pattern.isPattern host = false ∧
    ∃ answers, (names.resolve host).result = .ok answers ∧ ∃ a ∈ answers, Inet.read? a = some x

/-- A member that is itself an address or a pattern, and to whose text no hostname of the members
is resolved. -/
def StandsAlone (s : Settings) (names : NameService) (a : Text) : Prop :=
  s.membersEnabled = true ∧ MemberList.HasHost s.members a ∧ Pattern.isPattern a = true ∧
    ∀ host answers, MemberList.HasHost s.members host → Pattern.isPattern host = false →
      (names.resolve host).result = .ok answers → a ∉ answers

/-- How the host that is shown for an address belongs to the addresses that fit; members that stand
alone and hide hostnames are an exception. -/
structure IsShownFor (s : Settings) (names : NameService) (fits : Inet → Prop)
    (hides : Text → Prop) (x : Inet) (host : Text) : Prop where
  /-- A hostname that is shown is resolved to an address that fits. -/
  truthful : host ≠ x.hostText → ∃ y, fits y ∧ IsResolvedTo s names host y
  /-- If some hostname is resolved to an address that fits, such a hostname is shown. -/
  kept : (∃ other y, fits y ∧ IsResolvedTo s names other y) →
    (∃ y, fits y ∧ IsResolvedTo s names host y) ∨
      host = x.hostText ∧ ∃ a, hides a ∧ StandsAlone s names a

/-! ### Entries of the map -/

theorem mem_of_resolve {names : NameService} {host : Text} {answers : List Text}
    (h : (names.resolve host).result = .ok answers) {a : Text} (ha : a ∈ answers) :
    ∃ all, names host = .ok all ∧ a ∈ all := by
  obtain ⟨all, hall, rfl⟩ := names.exists_answers_of_resolve h
  exact ⟨all, hall, List.mem_eraseDups.1 ha⟩

section Map

variable {s : Settings} {names : NameService} {hosts : List Text} {origins : Origins} {a h : Text}

/-- An address of the map with a hostname is one to which that hostname is resolved. -/
theorem isResolvedTo_of_mem (hn : names.AnswersAddresses)
    (hh : ∀ host, host ∈ hosts ↔ s.membersEnabled = true ∧ MemberList.HasHost s.members host)
    (ht : Origins.Traces names hosts origins) (hm : (a, some h) ∈ origins) :
    ∃ x, Inet.read? a = some x ∧ IsResolvedTo s names h x := by
  obtain ⟨hmem, hp, answers, hr, ha⟩ := ht.resolved a h hm
  obtain ⟨all, hall, haall⟩ := mem_of_resolve hr ha
  obtain ⟨x, hx⟩ := hn h all hall a haall
  obtain ⟨hs, hhost⟩ := (hh h).1 hmem
  exact ⟨x, hx, hs, hhost, hp, answers, hr, a, ha, hx⟩

/-- An address of the map without a hostname is a member that stands alone. -/
theorem standsAlone_of_mem
    (hh : ∀ host, host ∈ hosts ↔ s.membersEnabled = true ∧ MemberList.HasHost s.members host)
    (ht : Origins.Traces names hosts origins) (hm : (a, none) ∈ origins) :
    StandsAlone s names a := by
  obtain ⟨hmem, hp⟩ := ht.literal a hm
  obtain ⟨hs, hhost⟩ := (hh a).1 hmem
  refine ⟨hs, hhost, hp, fun host answers hhost' hp' hr ha => ?_⟩
  obtain ⟨h', hm'⟩ := ht.hosted host ((hh host).2 ⟨hs, hhost'⟩) hp' answers hr a ha
  cases Origins.eq_of_mem_of_nodup ht.nodup hm hm'

/-- An address to which some hostname is resolved stands in the map with a hostname. -/
theorem exists_mem_of_isResolvedTo
    (hh : ∀ host, host ∈ hosts ↔ s.membersEnabled = true ∧ MemberList.HasHost s.members host)
    (ht : Origins.Traces names hosts origins) {x : Inet} (hr : IsResolvedTo s names h x) :
    ∃ a h', Inet.read? a = some x ∧ (a, some h') ∈ origins := by
  obtain ⟨hs, hhost, hp, answers, hres, a, ha, hx⟩ := hr
  obtain ⟨h', hm⟩ := ht.hosted h ((hh h).2 ⟨hs, hhost⟩) hp answers hres a ha
  exact ⟨a, h', hx, hm⟩

end Map

/-! ### Entries of the pool -/

section Pool

variable {s : Settings} {names : NameService} {pool : List PoolEntry} {e : PoolEntry} {x : Inet}
  {host : Text}

/-- In a pool of members, a hostname that is shown is resolved to the address itself. -/
theorem isShownFor_of_members (hn : names.AnswersAddresses) (hi : s.interfacesEnabled = false)
    (hp : (Pool.ofSettings s names).result = .ok pool) (he : e ∈ pool)
    (hx : Pattern.selects e.address x = true) (hhost : host = e.host.getD x.hostText) :
    IsShownFor s names (fun y => y.bare = x.bare) (fun a => Pattern.selects a x = true) x host := by
  obtain ⟨origins, ho, hpool⟩ := Pool.ofSettings_ok_iff.1 hp
  rw [if_neg (by simp [hi])] at hpool
  subst hpool
  split at he
  · obtain ⟨hosts, hh, ht⟩ := Pool.traces_originsFor ho
    rw [Pool.mem_ofOrigins] at he
    cases heh : e.host with
    | none =>
      rw [heh] at he hhost
      exact ⟨fun hne => absurd hhost hne,
        fun _ => .inr ⟨hhost, e.address, hx, standsAlone_of_mem hh ht he⟩⟩
    | some h =>
      rw [heh] at he hhost
      obtain ⟨y, hy, hr⟩ := isResolvedTo_of_mem hn hh ht he
      have hxy : y.bare = x.bare := ((Pattern.selects_of_read? hy).1 hx).symm
      obtain rfl : host = h := hhost
      exact ⟨fun _ => ⟨y, hxy, hr⟩, fun _ => .inl ⟨y, hxy, hr⟩⟩
  · cases he

/-- In a pool of patterns, a hostname that is shown is resolved to an address that the pattern
selects. -/
theorem isShownFor_of_patterns (hn : names.AnswersAddresses) (hi : s.interfacesEnabled = true)
    (hp : (Pool.ofSettings s names).result = .ok pool) (he : e ∈ pool)
    (hx : Pattern.selects e.address x = true) (hhost : host = e.host.getD x.hostText) :
    ∃ t, .text t ∈ s.interfaces ∧ Pattern.selects t x = true ∧
      IsShownFor s names (fun y => Pattern.selects t y = true)
        (fun a => Pattern.selectsText (Text.trim t) a = true) x host := by
  obtain ⟨origins, ho, hpool⟩ := Pool.ofSettings_ok_iff.1 hp
  rw [if_pos hi] at hpool
  obtain ⟨hosts, hh, ht⟩ := Pool.traces_originsFor ho
  rcases (Pool.mem_addPatterns hpool).1 he with he | ⟨t, htext, -, rfl⟩
  · cases he
  · refine ⟨t, htext, by rwa [← Pattern.selects_trim], ?_⟩
    cases hf : origins.hostFor (Text.trim t) with
    | none =>
      -- no name was found: what the pattern selects first in the map stands alone
      rw [hf] at hhost
      refine ⟨fun hne => absurd hhost hne, fun ⟨other, y, hy, hr⟩ => .inr ⟨hhost, ?_⟩⟩
      obtain ⟨a, h', ha, hm⟩ := exists_mem_of_isResolvedTo hh ht hr
      have hsel : Pattern.selectsText (Text.trim t) a = true := by
        rwa [Pattern.selectsText_of_read? ha, Pattern.selects_trim]
      obtain ⟨b, hb, hsb⟩ := Origins.exists_mem_of_hostFor_none hf hm hsel
      exact ⟨b, hsb, standsAlone_of_mem hh ht hb⟩
    | some h =>
      rw [hf] at hhost
      obtain rfl : host = h := hhost
      obtain ⟨a, hm, hsel⟩ := Origins.exists_mem_of_hostFor_some hf
      obtain ⟨y, hy, hr⟩ := isResolvedTo_of_mem hn hh ht hm
      have hty : Pattern.selects t y = true := by
        rw [← Pattern.selects_trim]
        rcases hsel with rfl | hsel
        · exact (Pattern.selects_of_read? hy).2 rfl
        · rwa [← Pattern.selectsText_of_read? hy]
      exact ⟨fun _ => ⟨y, hty, hr⟩, fun _ => .inl ⟨y, hty, hr⟩⟩

end Pool

/-! ### The bind address -/

variable {σ : Type} {os : SocketSystem σ} {p q : Picker} {env : Surroundings} {opener : Opener σ}
  {session session' : Session σ}

/-- The host of a bind address that comes from the pool. With members it belongs to the address for
which the socket was opened, zones aside; with patterns it belongs to the addresses that one pattern
for that address selects. -/
theorem shownHost_of_pick (hfirst : ¬ p.HasPicked) (hl : p.settings.localAddress = none)
    (hn : env.names.AnswersAddresses)
    (hpick : p.pick env os opener session = (.ok (), q, session')) :
    ∃ c socket session₁ a, p.Opens env opener session c (.ok socket) session₁ ∧
      q.bindAddress = some a ∧
      (Choice.IsFromPool p.settings env c ∨ Choice.PoolGivesNone p.settings env) ∧
      (Choice.IsFromPool p.settings env c →
        (p.settings.interfacesEnabled = false →
          IsShownFor p.settings env.names (fun y => y.bare = c.inet.bare)
            (fun m => Pattern.selects m c.inet = true) c.inet a.host) ∧
        (p.settings.interfacesEnabled = true →
          ∃ t, .text t ∈ p.settings.interfaces ∧ Pattern.selects t c.inet = true ∧
            IsShownFor p.settings env.names (fun y => Pattern.selects t y = true)
              (fun m => Pattern.selectsText (Text.trim t) m = true) c.inet a.host)) := by
  obtain ⟨c, socket, session₁, ho, hq⟩ := Picker.opens_of_pick_ok hfirst hpick
  refine ⟨c, socket, session₁, _, ho, hq, ?_, ?_⟩
  · exact ((Choice.bind_ok_iff hl).1 ho.1).imp_right And.left
  rintro ⟨pool, d, hd, hfix⟩
  obtain ⟨hbare, hhost⟩ := Choice.of_fixZone hfix
  obtain ⟨e, he, hsel, hde⟩ := Choice.exists_entry_of_poolGives hd
  have hx : Pattern.selects e.address c.inet = true := by
    rwa [Pattern.selects_congr hbare]
  have hshown : (c.toAddress socket.address.port).host = e.host.getD c.inet.hostText := by
    rw [← hde, ← hhost]
    rfl
  exact ⟨fun hi => isShownFor_of_members hn hi hd.1 he hx hshown,
    fun hi => isShownFor_of_patterns hn hi hd.1 he hx hshown⟩

/-! ### A hostname of a member, and a hostname of another address -/

theorem NameService.answersAddresses_ofTable {table : List (Text × List Text)}
    (h : ∀ entry ∈ table, ∀ a ∈ entry.2, (Inet.read? a).isSome = true) :
    (NameService.ofTable table).AnswersAddresses := by
  intro host answers ha a hm
  unfold ofTable at ha
  split at ha
  · next found hl =>
    cases ha
    obtain ⟨l₁, l₂, rfl, -⟩ := List.lookup_eq_some_iff.1 hl
    exact Option.isSome_iff_exists.1 (h (host, answers) (by simp) a hm)
  · cases ha

/-- A host with one address, where the name `db.local` stands for another or for the same. -/
def hostNamedAt (address : Inet) (answer : Text) : Surroundings :=
  .ofTables [("db.local".toList, [answer])] [.up "eth0".toList [address]]

/-- The name of a member that stands for the address of the host is shown for it. -/
theorem shownHost_of_pick_member :
    IsShownFor (.ofLists [] ["db.local".toList])
      (hostNamedAt (.v4 0x0a000007) "10.0.0.7".toList).names
      (fun y => y.bare = .v4 0x0a000007) (fun m => Pattern.selects m (.v4 0x0a000007) = true)
      (.v4 0x0a000007) "db.local".toList := by
  have hpick := Picker.firstPick_eq_ok (.ofLists [] ["db.local".toList])
    (hostNamedAt (.v4 0x0a000007) "10.0.0.7".toList) (by decide +kernel)
  obtain ⟨c, socket, session₁, a, ho, ha, -, h⟩ := shownHost_of_pick (by decide) rfl
    (NameService.answersAddresses_ofTable (by decide +kernel)) hpick
  have hc : (Choice.bind (.ofLists [] ["db.local".toList])
      (hostNamedAt (.v4 0x0a000007) "10.0.0.7".toList)).result =
        .ok (.of (.v4 0x0a000007) (some "db.local".toList) 0) :=
    Except.eq_ok_of_toOption (by decide +kernel)
  obtain rfl : Candidate.of (.v4 0x0a000007) (some "db.local".toList) 0 = c :=
    Except.ok.inj (hc.symm.trans ho.1)
  have hq : (Picker.firstPick (.ofLists [] ["db.local".toList])
      (hostNamedAt (.v4 0x0a000007) "10.0.0.7".toList)).2.1.bindAddress =
        some ⟨"db.local".toList, 5701, none⟩ := by
    decide +kernel
  obtain rfl : ⟨"db.local".toList, 5701, none⟩ = a := Option.some.inj (hq.symm.trans ha)
  exact (h (Choice.isFromPool_of_host rfl hc (by simp))).1 rfl

/-- The first pick shows a host for an address of the pool, and it is not the case that this host is
exactly right: a name resolved to the very address, and shown whenever there is one. -/
def ShowsInexactly (s : Settings) (env : Surroundings) (x : Inet) (host : Text) : Prop :=
  env.names.AnswersAddresses ∧
    (Picker.firstPick s env).2.1.bindAddress.map Address.host = some host ∧
    ∃ c, (Choice.bind s env).result = .ok c ∧ c.inet = x ∧ Choice.IsFromPool s env c ∧
      ¬ IsShownFor s env.names (fun y => y = x) (fun _ => False) x host

/-- A name that the table gives one answer for is resolved to no other address. -/
theorem eq_of_isResolvedTo_hostNamedAt {s : Settings} {x y z : Inet} {answer : Text}
    (h : IsResolvedTo s (hostNamedAt x answer).names "db.local".toList y)
    (hz : Inet.read? answer = some z) : y = z := by
  obtain ⟨-, -, -, answers, hr, a, ha, hy⟩ := h
  have hanswers : ((hostNamedAt x answer).names.resolve "db.local".toList).result =
      .ok [answer] := rfl
  obtain rfl : [answer] = answers := Except.ok.inj (hanswers.symm.trans hr)
  rw [List.mem_singleton.1 ha, hz] at hy
  exact (Option.some.inj hy).symm

/-- A name that is shown for an address but stands for another is not exactly right. -/
theorem showsInexactly_of_ne {s : Settings} {x z : Inet} {answer : Text}
    (hl : s.localAddress = none) (hz : Inet.read? answer = some z) (hne : x ≠ z)
    (htext : "db.local".toList ≠ x.hostText)
    (hbind : (Choice.bind s (hostNamedAt x answer)).result =
      .ok (.of x (some "db.local".toList) 0))
    (hshown : (Picker.firstPick s (hostNamedAt x answer)).2.1.bindAddress.map Address.host =
      some "db.local".toList) :
    ShowsInexactly s (hostNamedAt x answer) x "db.local".toList := by
  refine ⟨NameService.answersAddresses_ofTable (by simp [hz]), hshown, _, hbind, rfl,
    Choice.isFromPool_of_host hl hbind (by simp), fun h => ?_⟩
  obtain ⟨y, rfl, hr⟩ := h.truthful htext
  exact hne (eq_of_isResolvedTo_hostNamedAt hr hz)

/-- A member that is a pattern hides the name of another member. -/
theorem showsInexactly_of_pattern :
    ShowsInexactly (.ofLists [] ["10.0.0.*".toList, "db.local".toList])
      (hostNamedAt (.v4 0x0a000007) "10.0.0.7".toList) (.v4 0x0a000007) "10.0.0.7".toList := by
  refine ⟨NameService.answersAddresses_ofTable (by decide +kernel), by decide +kernel,
    .of _ none 0, Except.eq_ok_of_toOption (by decide +kernel), rfl, ?_, fun h => ?_⟩
  · refine ⟨[⟨"10.0.0.*".toList, none⟩, ⟨"10.0.0.7".toList, some "db.local".toList⟩],
      .of (.v4 0x0a000007) none 0, ⟨Except.eq_ok_of_toOption (by decide +kernel), ?_⟩,
      Except.eq_ok_of_toOption (by decide +kernel)⟩
    rw [if_neg (by decide +kernel)]
    exact ⟨by simp, Except.eq_ok_of_toOption (by decide +kernel)⟩
  · have hnamed : IsResolvedTo (.ofLists [] ["10.0.0.*".toList, "db.local".toList])
        (hostNamedAt (.v4 0x0a000007) "10.0.0.7".toList).names "db.local".toList
        (.v4 0x0a000007) :=
      ⟨rfl, ⟨["10.0.0.*".toList, "db.local".toList],
        Except.eq_ok_of_toOption (by decide +kernel), "db.local".toList, by simp, _, rfl, rfl⟩,
        by decide +kernel, ["10.0.0.7".toList], rfl, _, List.mem_singleton.2 rfl,
        by decide +kernel⟩
    -- the host shown is the text of the address, which is no name of a member
    rcases h.kept ⟨_, _, rfl, hnamed⟩ with ⟨y, -, -, -, hp, -⟩ | ⟨-, a, hf, -⟩
    · revert hp
      decide +kernel
    · exact hf

/-- Three picks whose host is not exactly right. With the pattern `10.0.0.*`, the name that stands
for `10.0.0.5` is shown for `10.0.0.7`. With a name that stands for `fe80::7` in another zone, that
name is shown. And a member that is a pattern hides the name that stands for the very address. -/
theorem shown_host_is_not_exact :
    ShowsInexactly (.ofLists ["10.0.0.*".toList] ["db.local".toList])
      (hostNamedAt (.v4 0x0a000007) "10.0.0.5".toList) (.v4 0x0a000007) "db.local".toList ∧
    ShowsInexactly (.ofLists [] ["db.local".toList])
      (hostNamedAt (.v6 0xfe800000000000000000000000000007 (Zone.ofText? "eth0".toList))
        "fe80::7%eth1".toList)
      (.v6 0xfe800000000000000000000000000007 (Zone.ofText? "eth0".toList)) "db.local".toList ∧
    ShowsInexactly (.ofLists [] ["10.0.0.*".toList, "db.local".toList])
      (hostNamedAt (.v4 0x0a000007) "10.0.0.7".toList) (.v4 0x0a000007) "10.0.0.7".toList := by
  refine ⟨?_, ?_, showsInexactly_of_pattern⟩
  · have hz : Inet.read? "10.0.0.5".toList = some (.v4 0x0a000005) := by decide +kernel
    exact showsInexactly_of_ne rfl hz (by decide +kernel) (by decide +kernel)
      (Except.eq_ok_of_toOption (by decide +kernel)) (by decide +kernel)
  · have hz : Inet.read? "fe80::7%eth1".toList =
        some (.v6 0xfe800000000000000000000000000007 (Zone.ofText? "eth1".toList)) := by
      decide +kernel
    exact showsInexactly_of_ne rfl hz (by decide +kernel) (by decide +kernel)
      (Except.eq_ok_of_toOption (by decide +kernel)) (by decide +kernel)

end MemberAddress
