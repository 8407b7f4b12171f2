import MemberAddress.Proofs.Picking

/-!
# Configured interfaces restrict the choice

With configured interfaces, an address is chosen only if a configured pattern selects it, and the
fault that no interface matches is kept for hosts where no pattern selects any address.

* `Choice.selected_of_bind` and `Choice.matched_of_listed` say so of the choice;
* `Picker.bind_of_mismatch` says that a pick raises that fault only when the choice does, before any
  socket is asked for;
* `Picker.interfaces_restrict` puts them together for a whole pick.
-/

namespace MemberAddress

/-! ### Faults of the other steps -/

theorem NameService.errorClass?_of_resolveOne {names : NameService} {host : Text} {f : Fault}
    (h : (names.resolveOne host).result = .error f) :
    f.errorClass? = none ∨ f.errorClass? = some .hostnameResolution := by
  unfold resolveOne at h
  split at h
  · cases h
  · rcases Logged.bind_error_iff.1 h with h | ⟨addresses, -, h⟩
    · rcases names.error_of_resolve h with ⟨e, rfl⟩ | rfl | ⟨e, rfl⟩
      · exact .inr rfl
      · exact .inr rfl
      · exact .inl rfl
    · split at h
      · cases h
      · cases h
        exact .inl rfl

/-- The only fault of the library when the address to advertise is looked up is a failed
resolution. -/
theorem Picker.errorClass?_of_advertise {s : Settings} {names : NameService} {a : Address}
    {f : Fault} (h : (advertise s names a).result = .error f) :
    f.errorClass? = none ∨ f.errorClass? = some .hostnameResolution := by
  rw [advertise, Logged.bind_error_iff] at h
  rcases h with h | ⟨found, -, h⟩
  · unfold Choice.advertised? at h
    split at h
    · cases h
    · split at h
      · cases h
      · next address _ _ =>
        rcases Logged.bind_error_iff.1 h with h | ⟨parts, -, h⟩
        · cases hs : HostPort.split address with
          | ok parts =>
            simp [HostPort.read, hs, Except.map] at h
          | error e =>
            obtain ⟨digits, rfl⟩ := HostPort.error_of_split hs
            obtain rfl : .overlongNumeral digits = f := by
              simpa [HostPort.read, hs, Except.map] using h
            exact .inl rfl
        · rcases Logged.bind_error_iff.1 h with h | ⟨x, -, h⟩
          · exact NameService.errorClass?_of_resolveOne h
          · cases h
    · cases h
      exact .inl rfl
  · cases found with
    | some c => cases h
    | none => cases h

/-! ### The choice -/

namespace Choice

variable {s : Settings} {env : Surroundings} {c : Candidate} {f : Fault}

/-- The pool of the configured patterns holds every text that selects some address. -/
theorem mem_pool_of_selects {pool : List PoolEntry} {t : Text} {x : Inet}
    (hi : s.interfacesEnabled = true) (hp : (Pool.ofSettings s env.names).result = .ok pool)
    (ht : .text t ∈ s.interfaces) (hx : Pattern.selects t x = true) :
    ∃ e ∈ pool, Pattern.selects e.address x = true := by
  obtain ⟨origins, -, hpool⟩ := Pool.ofSettings_ok_iff.1 hp
  rw [if_pos hi] at hpool
  have hx : Pattern.selects (Text.trim t) x = true := by rwa [Pattern.selects_trim]
  have hpat : Pattern.isPattern (Text.trim t) = true := Pattern.isPattern_of_selects hx
  exact ⟨_, (Pool.mem_addPatterns hpool).2 (.inr ⟨t, ht, hpat, rfl⟩), hx⟩

/-- With configured interfaces, a pattern selects the chosen address, which may be picked. -/
theorem selected_of_bind (hl : s.localAddress = none) (hi : s.interfacesEnabled = true)
    (h : (bind s env).result = .ok c) :
    (∃ t, .text t ∈ s.interfaces ∧ Pattern.selects t c.inet = true) ∧
      Scan.isAdmitted s c.inet = true := by
  obtain ⟨pool, d, hd, hfix⟩ := isFromPool_of_interfacesEnabled hl hi h
  obtain ⟨hbare, -⟩ := of_fixZone hfix
  obtain ⟨e, he, hsel, -⟩ := exists_entry_of_poolGives hd
  obtain ⟨origins, -, hpool⟩ := Pool.ofSettings_ok_iff.1 hd.1
  rw [if_pos hi] at hpool
  refine ⟨?_, isAdmitted_of_bind hl h⟩
  rcases (Pool.mem_addPatterns hpool).1 he with he | ⟨t, ht, -, rfl⟩
  · cases he
  · refine ⟨t, ht, ?_⟩
    rwa [← Pattern.selects_trim, Pattern.selects_congr hbare]

theorem errorClass?_of_enumerate {l : Listing} (h : l.enumerate.result = .error f) :
    f.errorClass? ≠ some .noMatchingInterface := by
  rcases Listing.error_of_enumerate h with ⟨e, rfl⟩ | ⟨e, rfl⟩ <;> simp [Fault.errorClass?]

/-- The choice fails for want of a matching interface only when the pool of the configured patterns
gives no candidate. -/
theorem poolGivesNone_of_mismatch (hl : s.localAddress = none)
    (h : (bind s env).result = .error f) (hf : f.errorClass? = some .noMatchingInterface) :
    s.interfacesEnabled = true ∧ PoolGivesNone s env := by
  rcases (bind_error_iff hl).1 h with h | ⟨d, -, h⟩
  · rcases matching_error_iff.1 h with h | ⟨pool, -, -, h⟩ | ⟨hn, h⟩
    · rcases Pool.error_of_ofSettings h with ⟨_, rfl⟩ | ⟨_, rfl⟩ | ⟨_, rfl⟩ | ⟨_, rfl⟩ <;> cases hf
    · unfold fromPool at h
      split at h
      · cases h
      · exact absurd hf (errorClass?_of_enumerate (Scan.pick_error_iff.1 h))
    · rw [result_withoutMatch] at h
      split at h
      · next hi => exact ⟨hi, hn⟩
      · exact absurd hf (errorClass?_of_enumerate (Scan.pick_error_iff.1 h))
  · rcases error_of_fixZone h with (⟨_, rfl⟩ | ⟨_, rfl⟩) | ⟨_, rfl⟩ | ⟨_, rfl⟩ <;> cases hf

/-- When a configured pattern selects a listed address that may be picked, the choice does not fail
for want of a matching interface; it does not matter whether the interface is up, virtual or
loopback. -/
theorem matched_of_listed {interfaces : List Interface} {t : Text} {x : Inet}
    (hl : s.localAddress = none) (hlist : env.listing.answer = .ok interfaces)
    (hx : ∃ i ∈ interfaces, x ∈ i.addresses) (had : Scan.isAdmitted s x = true)
    (ht : .text t ∈ s.interfaces) (hsel : Pattern.selects t x = true)
    (h : (bind s env).result = .error f) : f.errorClass? ≠ some .noMatchingInterface := by
  intro hf
  obtain ⟨hi, pool, hp, -, hnone⟩ := poolGivesNone_of_mismatch hl h hf
  obtain ⟨e, he, hes⟩ := mem_pool_of_selects hi hp ht hsel
  obtain ⟨c, hc⟩ := Scan.pick_isSome hlist he hx had hes
  have hsome : (fromPool s pool env.listing).result = .ok (some c) :=
    fromPool_ok_some_iff.2 ⟨List.ne_nil_of_mem he, hc⟩
  rw [hsome] at hnone
  cases hnone

end Choice

/-! ### The pick -/

namespace Picker

variable {σ : Type} {os : SocketSystem σ} {search : PortSearch} {p q : Picker} {env : Surroundings}
  {f : Fault} {s s' : Session σ}

/-- A pick that fails for want of a matching interface is one whose choice fails so. It has asked
for no socket, and the picker has not picked. -/
theorem bind_of_mismatch (h : p.pick env os (search.opener os) s = (.error f, q, s'))
    (hf : f.errorClass? = some .noMatchingInterface) :
    (Choice.bind p.settings env).result = .error f ∧ q = { p with socket := none } ∧
      q.bindAddress = none ∧ q.publicAddress = none ∧ s'.sockets = s.sockets ∧
        s'.events = (release os p.socket s).events := by
  have hfirst : ¬ p.HasPicked := by
    intro hp
    rw [pick_of_picked hp] at h
    cases h
  rcases pick_cases os env (search.opener os) s hfirst with
    ⟨f', hc, he⟩ | ⟨c, f', s₁, ho, he⟩ | ⟨c, socket, s₁, f', -, ha, he⟩ |
      ⟨c, socket, s₁, a, -, -, he⟩
  · rw [he] at h
    cases h
    obtain ⟨hb, hpub⟩ := not_hasPicked_iff.1 hfirst
    refine ⟨hc, rfl, hb, hpub, ?_, ?_⟩
    · simp
    · cases p.socket <;> simp
  · -- a search for a port fails in other ways
    rw [he] at h
    cases h
    rcases PortSearch.errorClass?_of_openSocket ho.2 with hn | hn <;> rw [hn] at hf <;> cases hf
  · rw [he] at h
    cases h
    rcases errorClass?_of_advertise ha with hn | hn <;> rw [hn] at hf <;> cases hf
  · rw [he] at h
    cases h

/-- Configured interfaces are a hard restriction. A chosen address is selected by a configured
pattern, and is an IPv4 address if only those are wanted. The fault that no interface matches is not
raised when a configured pattern selects some listed address that may be picked; when it is raised,
no socket was asked for and no address is set. -/
theorem interfaces_restrict (p : Picker) (env : Surroundings) (os : SocketSystem σ)
    (search : PortSearch) (s : Session σ) (hl : p.settings.localAddress = none)
    (hi : p.settings.interfacesEnabled = true) :
    (∀ c, (Choice.bind p.settings env).result = .ok c →
      Choice.IsFromPool p.settings env c ∧
      (∃ t, .text t ∈ p.settings.interfaces ∧ Pattern.selects t c.inet = true) ∧
      (p.settings.preferIPv4Stack = true → c.inet.version = .v4)) ∧
    (∀ interfaces, env.listing.answer = .ok interfaces →
      ∀ i ∈ interfaces, ∀ x ∈ i.addresses, Scan.isAdmitted p.settings x = true →
        ∀ t, .text t ∈ p.settings.interfaces → Pattern.selects t x = true →
          ∀ f q s', p.pick env os (search.opener os) s = (.error f, q, s') →
            f.errorClass? ≠ some .noMatchingInterface) ∧
    ∀ f q s', p.pick env os (search.opener os) s = (.error f, q, s') →
      f.errorClass? = some .noMatchingInterface →
        q.bindAddress = none ∧ q.publicAddress = none ∧ s'.sockets = s.sockets ∧
          s'.events = (release os p.socket s).events := by
  refine ⟨fun c hc => ?_, fun interfaces hlist i hmem x hx had t ht hsel f q s' hp hf => ?_,
    fun f q s' hp hf => ?_⟩
  · obtain ⟨hsel, had⟩ := Choice.selected_of_bind hl hi hc
    refine ⟨Choice.isFromPool_of_interfacesEnabled hl hi hc, hsel, fun h4 => ?_⟩
    cases hv : c.inet.version with
    | v4 => rfl
    | v6 => simp [Scan.isAdmitted, h4, hv] at had
  · have hc := (bind_of_mismatch hp hf).1
    exact Choice.matched_of_listed hl hlist ⟨i, hmem, hx⟩ had ht hsel hc hf
  · obtain ⟨-, -, hb, hpub, hsockets, hevents⟩ := bind_of_mismatch hp hf
    exact ⟨hb, hpub, hsockets, hevents⟩

/-- A host that is `10.0.0.1` gets that address for the patterns `eth0` and `10.0.0.*`, of which the
first is no pattern; for the pattern `192.168.50.*` it gets none, and no socket is asked for. -/
theorem interfaces_restrict_subnet :
    (∃ t, .text t ∈ (Settings.ofLists ["eth0".toList, "10.0.0.*".toList] []).interfaces ∧
      Pattern.selects t (.v4 0x0a000001) = true) ∧
    ∃ f q s', firstPick (.ofLists ["192.168.50.*".toList] []) .oneAddress = (.error f, q, s') ∧
      f.errorClass? = some .noMatchingInterface ∧ q.bindAddress = none ∧ s'.sockets = 0 := by
  have hc : (Choice.bind (.ofLists ["eth0".toList, "10.0.0.*".toList] []) .oneAddress).result =
      .ok (.of (.v4 0x0a000001) none 0) := Except.eq_ok_of_toOption (by decide +kernel)
  obtain ⟨-, hmatched, -⟩ := (interfaces_restrict
    (.new (.ofLists ["eth0".toList, "10.0.0.*".toList] [])) .oneAddress PortTable.system .default
    (.start .empty) rfl rfl).1 _ hc
  have hclass : faultClass? (firstPick (.ofLists ["192.168.50.*".toList] []) .oneAddress).1 =
      some .noMatchingInterface := by decide +kernel
  obtain ⟨f, he, hf⟩ := exists_error_of_faultClass? hclass
  have hpick : firstPick (.ofLists ["192.168.50.*".toList] []) .oneAddress = (.error f,
      (firstPick (.ofLists ["192.168.50.*".toList] []) .oneAddress).2) := by rw [← he]
  obtain ⟨hb, -, hsockets, -⟩ := (interfaces_restrict (.new (.ofLists ["192.168.50.*".toList] []))
    .oneAddress PortTable.system .default (.start .empty) rfl rfl).2.2 f _ _ hpick hf
  exact ⟨hmatched, f, _, _, hpick, hf, hb, hsockets⟩

end Picker

end MemberAddress
