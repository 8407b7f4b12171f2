import MemberAddress.Proofs.Members

/-!
# What stands in the pool

The pool of a picker holds one entry for every configured pattern, or else one for every address of
the members (`Pool.ofSettings_ok_iff`). The entries carry the hostnames that the map of the members
gives them.

The second part says with which faults the pool cannot be made: none of them is the fault that no
interface matches. The third part says when there is no fault: the values are texts, no port has too
many digits, and hostnames fail to resolve only for want of an address.
-/

namespace MemberAddress

namespace Pool

variable {names : NameService} {origins : Origins} {pool : List PoolEntry} {e d : PoolEntry}

theorem mem_addUnique : e ∈ addUnique pool d ↔ e ∈ pool ∨ e = d := by
  unfold addUnique
  by_cases h : d ∈ pool
  · rw [if_pos h]
    exact ⟨.inl, fun he => he.elim id fun he => he ▸ h⟩
  · rw [if_neg h, List.mem_append, List.mem_singleton]

/-- One configured value: a pattern is added, another text is left out, as bytes are, and a value of
any other kind is a fault. -/
theorem addPatterns_cons_ok_iff {v : Value} {rest : List Value} {pool' : List PoolEntry} :
    (addPatterns origins pool (v :: rest)).result = .ok pool' ↔
      (∃ t, v = .text t ∧ Pattern.isPattern (Text.trim t) = true ∧
        (addPatterns origins (addUnique pool ⟨Text.trim t, origins.hostFor (Text.trim t)⟩)
          rest).result = .ok pool') ∨
      ((∃ t, v = .text t ∧ Pattern.isPattern (Text.trim t) = false) ∨ ∃ bs, v = .bytes bs) ∧
        (addPatterns origins pool rest).result = .ok pool' := by
  cases v with
  | text t =>
    by_cases hp : Pattern.isPattern (Text.trim t) = true
    · simp [addPatterns, hp]
    · simp [addPatterns, hp, Except.bind]
  | bytes bs => simp [addPatterns, Except.bind]
  | _ => simp [addPatterns]

/-- The pool of the configured patterns: what each of them becomes, and nothing else. -/
theorem mem_addPatterns {vs : List Value} {pool' : List PoolEntry}
    (h : (addPatterns origins pool vs).result = .ok pool') :
    e ∈ pool' ↔ e ∈ pool ∨ ∃ t, .text t ∈ vs ∧ Pattern.isPattern (Text.trim t) = true ∧
      e = ⟨Text.trim t, origins.hostFor (Text.trim t)⟩ := by
  induction vs generalizing pool with
  | nil =>
    cases h
    simp
  | cons v rest ih =>
    rcases addPatterns_cons_ok_iff.1 h with ⟨t, rfl, hp, hr⟩ | ⟨hout, hr⟩
    · rw [ih hr, mem_addUnique, or_assoc]
      refine or_congr_right ⟨?_, ?_⟩
      · rintro (rfl | ⟨t', ht', hp', rfl⟩)
        · exact ⟨t, List.mem_cons_self, hp, rfl⟩
        · exact ⟨t', List.mem_cons_of_mem _ ht', hp', rfl⟩
      · rintro ⟨t', ht', hp', rfl⟩
        rcases List.mem_cons.1 ht' with ht' | ht'
        · cases ht'
          exact .inl rfl
        · exact .inr ⟨t', ht', hp', rfl⟩
    · rw [ih hr]
      refine or_congr_right ⟨?_, ?_⟩
      · rintro ⟨t', ht', hp', rfl⟩
        exact ⟨t', List.mem_cons_of_mem _ ht', hp', rfl⟩
      · rintro ⟨t', ht', hp', rfl⟩
        rcases List.mem_cons.1 ht' with rfl | ht'
        · -- a pattern is not left out
          rcases hout with ⟨t, ht, hp⟩ | ⟨bs, hbs⟩
          · cases ht
            rw [hp] at hp'
            cases hp'
          · cases hbs
        · exact ⟨t', ht', hp', rfl⟩

theorem mem_foldl_addUnique {origins : Origins} :
    e ∈ origins.foldl (fun pool origin => addUnique pool ⟨origin.1, origin.2⟩) pool ↔
      e ∈ pool ∨ (e.address, e.host) ∈ origins := by
  induction origins generalizing pool with
  | nil => simp
  | cons p rest ih =>
    obtain ⟨a, o⟩ := p
    obtain ⟨b, h⟩ := e
    rw [List.foldl_cons, ih, mem_addUnique, List.mem_cons, or_assoc, PoolEntry.mk.injEq,
      Prod.mk.injEq]

/-- The pool of the members: the addresses of the map with their hostnames. -/
theorem mem_ofOrigins : e ∈ ofOrigins origins ↔ (e.address, e.host) ∈ origins := by
  rw [ofOrigins, mem_foldl_addUnique]
  simp

/-! ### The pool for the settings -/

/-- The map of the members, empty when members do not count. -/
def originsFor (s : Settings) (names : NameService) : Logged Origins :=
  if s.membersEnabled then Origins.ofMembers names s.members else pure []

/-- The pool that is made from the map of the members. -/
def fromOrigins (s : Settings) (origins : Origins) : Logged (List PoolEntry) := do
  if s.interfacesEnabled then
    let pool ← addPatterns origins [] s.interfaces
    Logged.log .info pickerComponent (patternsMessage pool)
    return pool
  else if s.membersEnabled then
    Logged.log .info pickerComponent (membersMessage (ofOrigins origins))
    return ofOrigins origins
  else return []

theorem ofSettings_eq (s : Settings) (names : NameService) :
    ofSettings s names = originsFor s names >>= fromOrigins s := by
  unfold ofSettings originsFor fromOrigins
  by_cases hm : s.membersEnabled = true
  · simp only [hm, if_true]
  · simp only [hm, if_false, Bool.false_eq_true]

/-- The pool is made from the map of the members, and from the patterns if they count. -/
theorem ofSettings_ok_iff {s : Settings} {pool : List PoolEntry} :
    (ofSettings s names).result = .ok pool ↔
      ∃ origins, (originsFor s names).result = .ok origins ∧
        if s.interfacesEnabled = true then
          (addPatterns origins [] s.interfaces).result = .ok pool
        else pool = if s.membersEnabled then ofOrigins origins else [] := by
  rw [ofSettings_eq, Logged.bind_ok_iff]
  refine exists_congr fun origins => and_congr_right fun _ => ?_
  by_cases hi : s.interfacesEnabled = true
  · simp [fromOrigins, hi, Logged.bind_ok_iff, -Logged.result_bind]
  · by_cases hm : s.membersEnabled = true
    · simp [fromOrigins, hi, hm, Except.bind, eq_comm (b := pool)]
    · simp [fromOrigins, hi, hm, eq_comm (b := pool)]

/-- The map that goes into the pool is traced to the hosts of the members, if these count. -/
theorem traces_originsFor {s : Settings} (h : (originsFor s names).result = .ok origins) :
    ∃ hosts, (∀ host, host ∈ hosts ↔
      s.membersEnabled = true ∧ MemberList.HasHost s.members host) ∧
        Origins.Traces names hosts origins := by
  unfold originsFor at h
  by_cases hm : s.membersEnabled = true
  · rw [if_pos hm] at h
    obtain ⟨hosts, hh, ht⟩ := Origins.traces_ofMembers h
    exact ⟨hosts, fun host => by simp [hh, hm], ht⟩
  · rw [if_neg hm] at h
    cases h
    exact ⟨[], fun host => by simp [hm], .nil⟩

/-- An entry without a hostname is an address or a pattern. -/
theorem isPattern_of_mem {s : Settings} (h : (ofSettings s names).result = .ok pool) (he : e ∈ pool)
    (hn : e.host = none) : Pattern.isPattern e.address = true := by
  obtain ⟨origins, ho, h⟩ := ofSettings_ok_iff.1 h
  by_cases hi : s.interfacesEnabled = true
  · rw [if_pos hi] at h
    rcases (mem_addPatterns h).1 he with he | ⟨t, -, hp, rfl⟩
    · cases he
    · exact hp
  · rw [if_neg hi] at h
    subst h
    split at he
    · obtain ⟨hosts, -, ht⟩ := traces_originsFor ho
      rw [mem_ofOrigins, hn] at he
      exact (ht.literal _ he).2
    · cases he

/-- The hostname of an entry is a host of the members, and neither an address nor a pattern. -/
theorem hasHost_of_mem {s : Settings} {host : Text} (h : (ofSettings s names).result = .ok pool)
    (he : e ∈ pool) (hh : e.host = some host) :
    MemberList.HasHost s.members host ∧ Pattern.isPattern host = false := by
  obtain ⟨origins, ho, h⟩ := ofSettings_ok_iff.1 h
  obtain ⟨hosts, hhosts, ht⟩ := traces_originsFor ho
  have hmap : ∀ a, (a, some host) ∈ origins →
      MemberList.HasHost s.members host ∧ Pattern.isPattern host = false := fun a hm => by
    obtain ⟨hmem, hp, -⟩ := ht.resolved a host hm
    exact ⟨((hhosts host).1 hmem).2, hp⟩
  by_cases hi : s.interfacesEnabled = true
  · rw [if_pos hi] at h
    rcases (mem_addPatterns h).1 he with he | ⟨t, -, -, rfl⟩
    · cases he
    · obtain ⟨a, hm, -⟩ := Origins.exists_mem_of_hostFor_some hh
      exact hmap a hm
  · rw [if_neg hi] at h
    subst h
    split at he
    · rw [mem_ofOrigins, hh] at he
      exact hmap _ he
    · cases he

end Pool

/-! ### Faults on the way to the pool -/

/-- A port of too many digits is the only thing that is wrong with an entry. -/
theorem HostPort.error_of_readNumber {t : Text} {f : Fault} (h : readNumber t = .error f) :
    ∃ digits, f = .overlongNumeral digits := by
  unfold readNumber at h
  split at h
  · cases h
    exact ⟨_, rfl⟩
  · cases h

theorem HostPort.error_of_readPort {t : Text} {f : Fault} (h : readPort t = .error f) :
    ∃ digits, f = .overlongNumeral digits := by
  unfold readPort at h
  split at h
  · cases h
  · next firstText lastText _ =>
    split at h
    · next he =>
      cases h
      exact error_of_readNumber he
    · next he =>
      cases h
      cases lastText with
      | none => exact error_of_readNumber he
      | some last => exact error_of_readNumber he
    · cases h

theorem HostPort.error_of_split {t : Text} {f : Fault} (h : split t = .error f) :
    ∃ digits, f = .overlongNumeral digits := by
  have hmap : ∀ {host port : Text}, (readPort port).map (ofHost host) = .error f →
      ∃ digits, f = .overlongNumeral digits := by
    intro host port hp
    cases hr : readPort port with
    | error e =>
      rw [hr] at hp
      cases hp
      exact error_of_readPort hr
    | ok n =>
      rw [hr] at hp
      cases hp
  unfold split splitTrimmed at h
  split at h
  · split at h
    · cases h
    · exact hmap h
    · cases h
  · split at h
    · split at h
      · split at h
        · exact hmap h
        · cases h
      · cases h
    · cases h

theorem MemberList.error_of_split {members : List Value} {f : Fault}
    (h : split members = .error f) : ∃ kind, f = .notEntryText kind := by
  induction members with
  | nil => cases h
  | cons v rest ih =>
    unfold split at h
    split at h
    · next e he =>
      cases h
      unfold memberText at he
      split at he
      · cases he
      · split at he
        · cases he
          exact ⟨_, rfl⟩
        · cases he
    · split at h
      · next e he =>
        cases h
        exact ih he
      · cases h

/-- A hostname fails to resolve in one of three ways. -/
theorem NameService.error_of_resolve {names : NameService} {host : Text} {f : Fault}
    (h : (names.resolve host).result = .error f) :
    (∃ e, f = .unresolvable host e) ∨ f = .noAddress host ∨ ∃ e, f = .outside e := by
  unfold resolve at h
  split at h
  · next e _ =>
    cases h
    unfold faultOf
    split
    · exact .inl ⟨_, rfl⟩
    · exact .inl ⟨_, rfl⟩
    · exact .inr (.inr ⟨_, rfl⟩)
  · split at h
    · cases h
      exact .inr (.inl rfl)
    · cases h

/-- The addresses of a hostname are the answers for it without repeats. -/
theorem NameService.exists_answers_of_resolve {names : NameService} {host : Text}
    {addresses : List Text} (h : (names.resolve host).result = .ok addresses) :
    ∃ answers, names host = .ok answers ∧ addresses = answers.eraseDups := by
  unfold resolve at h
  split at h
  · cases h
  · next answers hanswers =>
    split at h
    · cases h
    · cases h
      exact ⟨answers, hanswers, rfl⟩

/-- A hostname that is answered fails to resolve only for want of answers. -/
theorem NameService.eq_nil_of_resolve {names : NameService} {host : Text} {answers : List Text}
    {f : Fault} (hanswers : names host = .ok answers)
    (h : (names.resolve host).result = .error f) : answers = [] := by
  cases answers with
  | nil => rfl
  | cons first rest =>
    rw [resolve, hanswers] at h
    simp [List.eraseDups_cons] at h

/-- Only an error from outside stops the loop over the hosts. -/
theorem Origins.error_of_addHost {names : NameService} {origins : Origins} {host : Text}
    {f : Fault} (h : (addHost names origins host).result = .error f) : ∃ e, f = .outside e := by
  unfold addHost at h
  split at h
  · cases h
  · split at h
    · cases h
    · next f' hf =>
      split at h
      · cases h
      · next hu =>
        cases h
        rcases names.error_of_resolve hf with ⟨e, rfl⟩ | rfl | he
        · exact absurd rfl hu
        · exact absurd rfl hu
        · exact he

theorem Origins.error_of_addEntries {names : NameService} {origins : Origins}
    {entries : List Text} {f : Fault} (h : (addEntries names origins entries).result = .error f) :
    (∃ digits, f = .overlongNumeral digits) ∨ ∃ e, f = .outside e := by
  induction entries generalizing origins with
  | nil => cases h
  | cons entry rest ih =>
    rw [addEntries, Logged.bind_error_iff] at h
    rcases h with h | ⟨parts, -, h⟩
    · exact .inl (HostPort.error_of_split h)
    · rcases Logged.bind_error_iff.1 h with h | ⟨next, -, h⟩
      · exact .inr (error_of_addHost h)
      · exact ih h

theorem Pool.error_of_addPatterns {origins : Origins} {pool : List PoolEntry} {vs : List Value}
    {f : Fault} (h : (addPatterns origins pool vs).result = .error f) :
    ∃ kind, f = .notText kind := by
  induction vs generalizing pool with
  | nil => cases h
  | cons v rest ih =>
    cases v with
    | text t =>
      by_cases hp : Pattern.isPattern (Text.trim t) = true
      · rw [addPatterns, if_pos hp] at h
        exact ih h
      · rw [addPatterns, if_neg hp, Logged.bind_error_iff] at h
        rcases h with h | ⟨-, -, h⟩
        · cases h
        · exact ih h
    | bytes bs =>
      rw [addPatterns, Logged.bind_error_iff] at h
      rcases h with h | ⟨-, -, h⟩
      · cases h
      · exact ih h
    | _ =>
      cases h
      exact ⟨_, rfl⟩

/-- What may be wrong when the pool cannot be made: a value that is no text, a port of too many
digits, or an error of the name service. -/
theorem Pool.error_of_ofSettings {s : Settings} {names : NameService} {f : Fault}
    (h : (ofSettings s names).result = .error f) :
    (∃ kind, f = .notEntryText kind) ∨ (∃ kind, f = .notText kind) ∨
      (∃ digits, f = .overlongNumeral digits) ∨ ∃ e, f = .outside e := by
  rw [ofSettings_eq, Logged.bind_error_iff] at h
  rcases h with h | ⟨origins, -, h⟩
  · unfold originsFor at h
    split at h
    · rw [Origins.ofMembers, Logged.bind_error_iff] at h
      rcases h with h | ⟨entries, -, h⟩
      · exact .inl (MemberList.error_of_split h)
      · exact .inr (.inr (Origins.error_of_addEntries h))
    · cases h
  · unfold fromOrigins at h
    split at h
    · rcases Logged.bind_error_iff.1 h with h | ⟨pool, -, h⟩
      · exact .inr (.inl (error_of_addPatterns h))
      · cases h
    · split at h
      · cases h
      · cases h

/-! ### When nothing is wrong -/

/-- A name service whose only failure is that a hostname has no address. -/
def NameService.OnlyUnresolved (names : NameService) : Prop :=
  ∀ host f, (names.resolve host).result = .error f → Origins.isUnresolved f = true

/-- A name service whose only errors are that a hostname is unknown or cannot be encoded. -/
def NameService.OnlyUnknown (names : NameService) : Prop :=
  ∀ host e, names host = .error e → e.kind = .nameLookup ∨ e.kind = .nameEncoding

/-- A hostname of such a name service fails to resolve only for want of an address. -/
theorem NameService.OnlyUnknown.onlyUnresolved {names : NameService} (h : names.OnlyUnknown) :
    names.OnlyUnresolved := by
  intro host f hf
  unfold resolve at hf
  split at hf
  · next e he =>
    cases hf
    unfold faultOf
    rcases h host e he with hk | hk <;> rw [hk] <;> rfl
  · split at hf
    · cases hf
      rfl
    · cases hf

/-- A member list that can be read: texts, in which no port has too many digits. -/
structure MemberList.IsReadable (members : List Value) : Prop where
  texts : ∀ v ∈ members, ∃ t, v = .text t
  ports : ∀ entries, MemberList.split members = .ok entries → ∀ entry ∈ entries,
    ∀ digits, HostPort.split entry ≠ .error (.overlongNumeral digits)

/-- The members, if they count, can be read, and the only failure of the name service is that a
hostname has no address. -/
def Settings.HasReadableMembers (s : Settings) (names : NameService) : Prop :=
  s.membersEnabled = true → MemberList.IsReadable s.members ∧ names.OnlyUnresolved

theorem MemberList.exists_split {members : List Value} (h : ∀ v ∈ members, ∃ t, v = .text t) :
    ∃ entries, split members = .ok entries := by
  induction members with
  | nil => exact ⟨[], rfl⟩
  | cons v rest ih =>
    obtain ⟨t, rfl⟩ := h v List.mem_cons_self
    obtain ⟨more, hmore⟩ := ih fun v hv => h v (List.mem_cons_of_mem _ hv)
    exact ⟨entries t ++ more, by simp only [split, memberText, hmore]⟩

/-- A port of too many digits is the only thing that an entry can be refused for. -/
theorem HostPort.exists_split {entry : Text}
    (h : ∀ digits, split entry ≠ .error (.overlongNumeral digits)) :
    ∃ parts, split entry = .ok parts := by
  cases hs : split entry with
  | ok parts => exact ⟨parts, rfl⟩
  | error f =>
    obtain ⟨digits, rfl⟩ := error_of_split hs
    exact absurd hs (h digits)

namespace Origins

variable {names : NameService}

theorem exists_addHost (hn : names.OnlyUnresolved) (origins : Origins) (host : Text) :
    ∃ next, (addHost names origins host).result = .ok next := by
  cases hp : Pattern.isPattern host with
  | true => exact ⟨_, addHost_ok_iff.2 (.inl ⟨hp, rfl⟩)⟩
  | false =>
    cases hr : (names.resolve host).result with
    | ok answers => exact ⟨_, addHost_ok_iff.2 (.inr ⟨hp, .inl ⟨answers, hr, rfl⟩⟩)⟩
    | error f => exact ⟨_, addHost_ok_iff.2 (.inr ⟨hp, .inr ⟨f, hr, hn host f hr, rfl⟩⟩)⟩

theorem exists_addEntries (hn : names.OnlyUnresolved) (origins : Origins) {entries : List Text}
    (h : ∀ entry ∈ entries, ∀ digits, HostPort.split entry ≠ .error (.overlongNumeral digits)) :
    ∃ all, (addEntries names origins entries).result = .ok all := by
  induction entries generalizing origins with
  | nil => exact ⟨origins, rfl⟩
  | cons entry rest ih =>
    obtain ⟨parts, hparts⟩ := HostPort.exists_split (h entry List.mem_cons_self)
    obtain ⟨next, hnext⟩ := exists_addHost hn origins parts.host
    obtain ⟨all, hall⟩ := ih next fun entry he => h entry (List.mem_cons_of_mem _ he)
    exact ⟨all, addEntries_cons_ok_iff.2 ⟨parts, hparts, next, hnext, hall⟩⟩

end Origins

/-- The pool of configured texts can be made. -/
theorem Pool.exists_addPatterns (origins : Origins) {vs : List Value}
    (h : ∀ v ∈ vs, ∃ t, v = .text t) (pool : List PoolEntry) :
    ∃ pool', (addPatterns origins pool vs).result = .ok pool' := by
  induction vs generalizing pool with
  | nil => exact ⟨pool, rfl⟩
  | cons v rest ih =>
    obtain ⟨t, rfl⟩ := h v List.mem_cons_self
    have hrest : ∀ v ∈ rest, ∃ t, v = .text t := fun v hv => h v (List.mem_cons_of_mem _ hv)
    by_cases hp : Pattern.isPattern (Text.trim t) = true
    · obtain ⟨pool', hpool'⟩ :=
        ih hrest (addUnique pool ⟨Text.trim t, origins.hostFor (Text.trim t)⟩)
      exact ⟨pool', addPatterns_cons_ok_iff.2 (.inl ⟨t, rfl, hp, hpool'⟩)⟩
    · obtain ⟨pool', hpool'⟩ := ih hrest pool
      exact ⟨pool', addPatterns_cons_ok_iff.2
        (.inr ⟨.inl ⟨t, rfl, by simpa using hp⟩, hpool'⟩)⟩

/-- The map of readable members can be made. -/
theorem Pool.exists_originsFor {s : Settings} {names : NameService}
    (h : s.HasReadableMembers names) : ∃ origins, (originsFor s names).result = .ok origins := by
  unfold originsFor
  split
  · next hm =>
    obtain ⟨hread, hn⟩ := h hm
    obtain ⟨entries, hentries⟩ := MemberList.exists_split hread.texts
    obtain ⟨all, hall⟩ := Origins.exists_addEntries hn [] (hread.ports entries hentries)
    exact ⟨all, Origins.ofMembers_ok_iff.2 ⟨entries, hentries, hall⟩⟩
  · exact ⟨[], rfl⟩

/-- The pool of configured texts and readable members can be made. -/
theorem Pool.exists_ofSettings {s : Settings} {names : NameService}
    (htexts : ∀ v ∈ s.interfaces, ∃ t, v = .text t) (h : s.HasReadableMembers names) :
    ∃ pool, (ofSettings s names).result = .ok pool := by
  obtain ⟨origins, ho⟩ := exists_originsFor h
  obtain ⟨pool, hpool⟩ := exists_addPatterns origins htexts []
  by_cases hi : s.interfacesEnabled = true
  · exact ⟨pool, ofSettings_ok_iff.2 ⟨origins, ho, by rwa [if_pos hi]⟩⟩
  · exact ⟨_, ofSettings_ok_iff.2 ⟨origins, ho, by rw [if_neg hi]⟩⟩

end MemberAddress
