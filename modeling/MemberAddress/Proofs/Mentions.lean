import MemberAddress.Proofs.Picking

/-!
# The pool of the members as a summary

The entries of the members mention addresses, one after another: an address or pattern mentions
itself, and a hostname every address that the name service answers for it. The pool of the members
is the summary of these mentions: every address once, where it is first mentioned, with the hostname
that it was last mentioned with.

* `NameService.mentions` are the mentions of one host, `Pool.summary` sums mentions up;
* `Origins.addHost_ofMentions` is one turn of the loop over the entries,
  `Origins.addEntries_ofMentions` the whole of it;
* `Pool.ofSettings_eq_summary` is the statement about the pool.
-/

namespace MemberAddress

/-! ### First occurrences -/

section FirstOccurrences

variable (xs ys : List Text) (a : Text)

/-- A text at the end of a list is new or repeated. -/
theorem eraseDups_concat :
    (xs ++ [a]).eraseDups = if a ∈ xs then xs.eraseDups else xs.eraseDups ++ [a] := by
  rw [List.eraseDups_append]
  by_cases h : a ∈ xs
  · simp [List.removeAll, h]
  · simp [List.removeAll, h, List.eraseDups_cons]

theorem nodup_eraseDups : xs.eraseDups.Nodup := by
  induction xs using List.reverseRecOn with
  | nil => exact List.nodup_nil
  | append_singleton xs a ih =>
    rw [eraseDups_concat]
    split
    · exact ih
    · next h =>
      rw [← List.concat_eq_append]
      exact List.Nodup.concat (fun hm => h (List.mem_eraseDups.1 hm)) ih

/-- Repeats may be taken out of a part first. -/
theorem eraseDups_append_eraseDups : (xs ++ ys.eraseDups).eraseDups = (xs ++ ys).eraseDups := by
  induction ys using List.reverseRecOn with
  | nil => rfl
  | append_singleton ys a ih =>
    rw [eraseDups_concat ys a, ← List.append_assoc, eraseDups_concat (xs ++ ys) a]
    by_cases h : a ∈ ys
    · rw [if_pos h, if_pos (List.mem_append_right _ h), ih]
    · rw [if_neg h, ← List.append_assoc, eraseDups_concat (xs ++ ys.eraseDups) a, ih]
      simp only [List.mem_append, List.mem_eraseDups]

end FirstOccurrences

/-! ### Mentions -/

/-- The host of an entry that can be taken apart. -/
def HostPort.hostOf (entry : Text) : Text := ((split entry).toOption.map host).getD []

theorem HostPort.hostOf_of_split {entry : Text} {parts : HostPort} (h : split entry = .ok parts) :
    hostOf entry = parts.host := by
  rw [hostOf, h]
  rfl

namespace NameService

/-- What a host mentions: an address or a pattern itself, and a hostname all answers of the name
service. A hostname that fails mentions nothing. -/
def mentions (names : NameService) (host : Text) : List PoolEntry :=
  if Pattern.isPattern host then [⟨host, none⟩]
  else
    match names host with
    | .ok answers => answers.map fun a => ⟨a, some host⟩
    | .error _ => []

/-- What several entries mention, from left to right. -/
def mentionsOf (names : NameService) (entries : List Text) : List PoolEntry :=
  entries.flatMap fun entry => names.mentions (HostPort.hostOf entry)

/-- Whether the host of an entry is an address or a pattern, or a hostname with an answer. -/
def contributes (names : NameService) (entry : Text) : Bool :=
  Pattern.isPattern (HostPort.hostOf entry) ||
    match names (HostPort.hostOf entry) with
    | .ok answers => !answers.isEmpty
    | .error _ => false

/-- A hostname without an answer mentions nothing. -/
theorem mentions_eq_nil {names : NameService} {entry : Text}
    (h : ¬ names.contributes entry = true) : names.mentions (HostPort.hostOf entry) = [] := by
  simp only [contributes, Bool.or_eq_true, not_or] at h
  obtain ⟨hp, hanswers⟩ := h
  rw [mentions, if_neg hp]
  cases hnames : names (HostPort.hostOf entry) with
  | error e => rfl
  | ok answers =>
    rw [hnames] at hanswers
    cases answers with
    | nil => rfl
    | cons first rest => exact absurd rfl hanswers

/-- Only the entries that contribute count. -/
theorem mentionsOf_filter (names : NameService) (entries : List Text) :
    names.mentionsOf (entries.filter names.contributes) = names.mentionsOf entries := by
  induction entries with
  | nil => rfl
  | cons entry rest ih =>
    have hcons : names.mentionsOf (entry :: rest) =
        names.mentions (HostPort.hostOf entry) ++ names.mentionsOf rest := List.flatMap_cons
    by_cases h : names.contributes entry = true
    · rw [List.filter_cons_of_pos h, mentionsOf, List.flatMap_cons, ← mentionsOf, ih, hcons]
    · rw [List.filter_cons_of_neg h, ih, hcons, mentions_eq_nil h, List.nil_append]

end NameService

namespace Pool

variable {ms : List PoolEntry} {e : PoolEntry} {a : Text}

/-- The hostname that an address was last mentioned with. -/
def lastHost (ms : List PoolEntry) (a : Text) : Option Text :=
  ((ms.filter fun e => e.address == a).filterMap PoolEntry.host).getLast?

/-- Every address once, in order of first mention, with the hostname that it was last mentioned
with. -/
def summary (ms : List PoolEntry) : List PoolEntry :=
  (ms.map PoolEntry.address).eraseDups.map fun a => ⟨a, lastHost ms a⟩

/-- A mention with a hostname counts from then on, one without changes nothing. -/
theorem lastHost_concat :
    lastHost (ms ++ [e]) a =
      if e.address = a then e.host.or (lastHost ms a) else lastHost ms a := by
  rw [lastHost, List.filter_append, List.filterMap_append, List.getLast?_append]
  by_cases h : e.address = a
  · rw [if_pos h, List.filter_cons_of_pos (by simpa using h), List.filter_nil]
    cases hhost : e.host <;> simp [hhost, lastHost]
  · rw [if_neg h, List.filter_cons_of_neg (by simpa using h)]
    rfl

theorem lastHost_of_notMem (h : a ∉ ms.map PoolEntry.address) : lastHost ms a = none := by
  have hnil : (ms.filter fun e => e.address == a) = [] := by
    rw [List.filter_eq_nil_iff]
    intro e he hea
    exact h (List.mem_map.2 ⟨e, he, beq_iff_eq.1 hea⟩)
  rw [lastHost, hnil]
  rfl

/-- The answers for a hostname are mentioned with it last. -/
theorem lastHost_append_answers (ms : List PoolEntry) (host : Text) (answers : List Text) :
    lastHost (ms ++ answers.map fun a => ⟨a, some host⟩) a =
      if a ∈ answers then some host else lastHost ms a := by
  induction answers using List.reverseRecOn with
  | nil => simp
  | append_singleton answers b ih =>
    rw [List.map_append, ← List.append_assoc, List.map_singleton, lastHost_concat, ih]
    by_cases hb : b = a
    · simp [hb]
    · have hab : a ≠ b := fun he => hb he.symm
      simp [hb, hab]

theorem map_address_summary (ms : List PoolEntry) :
    (summary ms).map PoolEntry.address = (ms.map PoolEntry.address).eraseDups := by
  rw [summary, List.map_map]
  exact List.map_id _

end Pool

/-! ### The map of the mentions -/

namespace Origins

variable {names names' : NameService} {origins : Origins} {ms : List PoolEntry} {host a : Text}

/-- The map that sums mentions up. -/
def ofMentions (ms : List PoolEntry) : Origins :=
  (ms.map PoolEntry.address).eraseDups.map fun a => (a, Pool.lastHost ms a)

@[simp] theorem keys_ofMentions (ms : List PoolEntry) :
    (ofMentions ms).keys = (ms.map PoolEntry.address).eraseDups := by
  rw [keys, ofMentions, List.map_map]
  exact List.map_id _

theorem mem_keys_ofMentions : a ∈ (ofMentions ms).keys ↔ a ∈ ms.map PoolEntry.address := by
  rw [keys_ofMentions, List.mem_eraseDups]

/-- A literal mention adds its address, if it is new. -/
theorem addLiteral_ofMentions (ms : List PoolEntry) (a : Text) :
    (ofMentions ms).addLiteral a = ofMentions (ms ++ [⟨a, none⟩]) := by
  have hlast : ∀ b, Pool.lastHost (ms ++ [⟨a, none⟩]) b = Pool.lastHost ms b := by
    intro b
    rw [Pool.lastHost_concat]
    split <;> rfl
  unfold addLiteral
  by_cases h : a ∈ ms.map PoolEntry.address
  · rw [if_pos (isSome_lookup_iff.2 (mem_keys_ofMentions.2 h))]
    simp only [ofMentions, hlast, List.map_append, List.map_singleton, eraseDups_concat, if_pos h]
  · rw [if_neg fun hs => h (mem_keys_ofMentions.1 (isSome_lookup_iff.1 hs))]
    simp only [ofMentions, hlast, List.map_append, List.map_singleton, eraseDups_concat, if_neg h,
      Pool.lastHost_of_notMem h]

/-- Setting a hostname in a map that is given by a function on its addresses. -/
theorem putHost_map (f : Text → Option Text) {keys : List Text} (hnd : keys.Nodup) :
    putHost host (keys.map fun k => (k, f k)) a =
      (if a ∈ keys then keys else keys ++ [a]).map fun k =>
        (k, if k = a then some host else f k) := by
  induction keys with
  | nil => simp [putHost]
  | cons k rest ih =>
    obtain ⟨hk, hnd⟩ := List.nodup_cons.1 hnd
    by_cases hka : k = a
    · subst hka
      have hrest : ∀ b ∈ rest, (b, f b) = (b, if b = k then some host else f b) := by
        intro b hb
        have hbk : b ≠ k := fun he => hk (he ▸ hb)
        rw [if_neg hbk]
      simp only [List.map_cons, putHost, if_true, List.mem_cons_self, List.map_congr_left hrest]
    · have hak : a ≠ k := fun he => hka he.symm
      rw [List.map_cons, putHost, if_neg hka, ih hnd]
      by_cases ha : a ∈ rest
      · simp [ha, hka]
      · simp [ha, hka, hak]

/-- A mention with a hostname sets the hostname of its address. -/
theorem putHost_ofMentions (ms : List PoolEntry) (host a : Text) :
    putHost host (ofMentions ms) a = ofMentions (ms ++ [⟨a, some host⟩]) := by
  have hlast : ∀ b, Pool.lastHost (ms ++ [⟨a, some host⟩]) b =
      if b = a then some host else Pool.lastHost ms b := by
    intro b
    rw [Pool.lastHost_concat]
    simp only [eq_comm (a := a), Option.some_or]
  rw [ofMentions, putHost_map _ (nodup_eraseDups _)]
  simp only [ofMentions, hlast, List.map_append, List.map_singleton, eraseDups_concat,
    List.mem_eraseDups]

theorem foldl_putHost_ofMentions (ms : List PoolEntry) (host : Text) (answers : List Text) :
    answers.foldl (putHost host) (ofMentions ms) =
      ofMentions (ms ++ answers.map fun a => ⟨a, some host⟩) := by
  induction answers generalizing ms with
  | nil => rw [List.map_nil, List.append_nil, List.foldl_nil]
  | cons a rest ih =>
    rw [List.foldl_cons, putHost_ofMentions, ih, List.map_cons, List.append_assoc,
      List.singleton_append]

/-- Repeated answers are repeated mentions, which do not count. -/
theorem ofMentions_eraseDups (ms : List PoolEntry) (host : Text) (answers : List Text) :
    ofMentions (ms ++ answers.eraseDups.map fun a => ⟨a, some host⟩) =
      ofMentions (ms ++ answers.map fun a => ⟨a, some host⟩) := by
  have haddress (xs : List Text) :
      (xs.map fun a => (⟨a, some host⟩ : PoolEntry)).map PoolEntry.address = xs := by
    rw [List.map_map]
    exact List.map_id _
  simp only [ofMentions, Pool.lastHost_append_answers, List.mem_eraseDups, List.map_append,
    haddress, eraseDups_append_eraseDups]

/-- One turn of the loop over the hosts adds what the host mentions. -/
theorem addHost_ofMentions (hn : names.OnlyUnknown) (ms : List PoolEntry) (host : Text) :
    (addHost names (ofMentions ms) host).result =
      .ok (ofMentions (ms ++ names.mentions host)) := by
  rw [addHost_ok_iff]
  cases hp : Pattern.isPattern host with
  | true =>
    refine .inl ⟨rfl, ?_⟩
    rw [NameService.mentions, if_pos hp, addLiteral_ofMentions]
  | false =>
    refine .inr ⟨rfl, ?_⟩
    rw [NameService.mentions, if_neg (by simp [hp])]
    cases hr : (names.resolve host).result with
    | error f =>
      refine .inr ⟨f, rfl, hn.onlyUnresolved host f hr, ?_⟩
      cases hnames : names host with
      | error e => rw [List.append_nil]
      | ok answers =>
        obtain rfl := NameService.eq_nil_of_resolve hnames hr
        show ofMentions (ms ++ []) = ofMentions ms
        rw [List.append_nil]
    | ok addresses =>
      obtain ⟨answers, hnames, rfl⟩ := NameService.exists_answers_of_resolve hr
      refine .inl ⟨_, rfl, ?_⟩
      rw [hnames, foldl_putHost_ofMentions, ofMentions_eraseDups]

/-- The loop over the entries adds what they mention. -/
theorem addEntries_ofMentions (hn : names.OnlyUnknown) (ms : List PoolEntry) {entries : List Text}
    (h : ∀ entry ∈ entries, ∀ digits, HostPort.split entry ≠ .error (.overlongNumeral digits)) :
    (addEntries names (ofMentions ms) entries).result =
      .ok (ofMentions (ms ++ names.mentionsOf entries)) := by
  induction entries generalizing ms with
  | nil =>
    rw [NameService.mentionsOf, List.flatMap_nil, List.append_nil]
    rfl
  | cons entry rest ih =>
    obtain ⟨parts, hparts⟩ := HostPort.exists_split (h entry List.mem_cons_self)
    refine addEntries_cons_ok_iff.2 ⟨parts, hparts, _, addHost_ofMentions hn ms parts.host, ?_⟩
    rw [ih _ fun entry he => h entry (List.mem_cons_of_mem _ he), List.append_assoc,
      ← HostPort.hostOf_of_split hparts]
    rfl

/-! ### What is asked of the name service -/

/-- The name service is not asked about addresses and patterns. -/
theorem addHost_congr (h : ∀ host, Pattern.isPattern host = false → names' host = names host)
    (origins : Origins) (host : Text) :
    addHost names' origins host = addHost names origins host := by
  unfold addHost
  cases hp : Pattern.isPattern host with
  | true => rfl
  | false =>
    have hresolve : names'.resolve host = names.resolve host := by
      rw [NameService.resolve, NameService.resolve, h host hp]
    rw [hresolve]

theorem addEntries_congr (h : ∀ host, Pattern.isPattern host = false → names' host = names host)
    (origins : Origins) (entries : List Text) :
    addEntries names' origins entries = addEntries names origins entries := by
  induction entries generalizing origins with
  | nil => rfl
  | cons entry rest ih => simp only [addEntries, addHost_congr h, ih]

end Origins

/-! ### The pool -/

namespace Pool

variable {names names' : NameService} {s : Settings} {members : List Value} {entries : List Text}

/-- A pool of addresses that are all different has an entry for each of them. -/
theorem foldl_addUnique_map (f : Text → Option Text) {keys : List Text} (hnd : keys.Nodup)
    {pool : List PoolEntry} (hnew : ∀ a ∈ keys, (⟨a, f a⟩ : PoolEntry) ∉ pool) :
    (keys.map fun a => (a, f a)).foldl (fun pool origin => addUnique pool ⟨origin.1, origin.2⟩)
      pool = pool ++ keys.map fun a => ⟨a, f a⟩ := by
  induction keys generalizing pool with
  | nil => exact (List.append_nil _).symm
  | cons a rest ih =>
    obtain ⟨ha, hnd⟩ := List.nodup_cons.1 hnd
    have hadd : addUnique pool ⟨a, f a⟩ = pool ++ [⟨a, f a⟩] :=
      if_neg (hnew a List.mem_cons_self)
    rw [List.map_cons, List.foldl_cons, hadd, ih hnd, List.append_assoc, List.singleton_append,
      List.map_cons]
    intro b hb hmem
    rcases List.mem_append.1 hmem with hmem | hmem
    · exact hnew b (List.mem_cons_of_mem _ hb) hmem
    · cases List.mem_singleton.1 hmem
      exact ha hb

theorem ofOrigins_ofMentions (ms : List PoolEntry) :
    ofOrigins (Origins.ofMentions ms) = summary ms := by
  rw [ofOrigins, Origins.ofMentions, foldl_addUnique_map _ (nodup_eraseDups _) (by simp),
    List.nil_append, summary]

/-- The pool of members alone is the summary of what their entries mention. -/
theorem ofSettings_result (hm : s.membersEnabled = true) (hi : s.interfacesEnabled = false)
    (hread : MemberList.IsReadable s.members) (hn : names.OnlyUnknown)
    (hs : MemberList.split s.members = .ok entries) :
    (ofSettings s names).result = .ok (summary (names.mentionsOf entries)) := by
  have hentries : (Origins.addEntries names [] entries).result =
      .ok (Origins.ofMentions (names.mentionsOf entries)) :=
    Origins.addEntries_ofMentions hn [] (hread.ports entries hs)
  have horigins : (originsFor s names).result =
      .ok (Origins.ofMentions (names.mentionsOf entries)) := by
    rw [originsFor, if_pos hm]
    exact Origins.ofMembers_ok_iff.2 ⟨entries, hs, hentries⟩
  refine ofSettings_ok_iff.2 ⟨_, horigins, ?_⟩
  rw [if_neg (by simp [hi]), if_pos hm, ofOrigins_ofMentions]

/-- With members alone, and members that can be read, the pool has one entry for each address that
the members' entries mention, where it is first mentioned, with the hostname that it was last
mentioned with. The name service is not asked about hosts that are addresses or patterns. Hostnames
that fail or have no address may be put in or taken out anywhere. -/
theorem ofSettings_eq_summary (hm : s.membersEnabled = true) (hi : s.interfacesEnabled = false)
    (hread : MemberList.IsReadable s.members) (hn : names.OnlyUnknown) :
    ∃ entries, MemberList.split s.members = .ok entries ∧
      (ofSettings s names).result = .ok (summary (names.mentionsOf entries)) ∧
      ((summary (names.mentionsOf entries)).map PoolEntry.address).Nodup ∧
      (∀ names', (∀ host, Pattern.isPattern host = false → names' host = names host) →
        ofSettings s names' = ofSettings s names) ∧
      ∀ members' entries', MemberList.IsReadable members' →
        MemberList.split members' = .ok entries' →
        entries'.filter names.contributes = entries.filter names.contributes →
        (ofSettings { s with members := members' } names).result = (ofSettings s names).result := by
  obtain ⟨entries, hs⟩ := MemberList.exists_split hread.texts
  have hresult := ofSettings_result hm hi hread hn hs
  refine ⟨entries, hs, hresult, ?_, fun names' h => ?_, fun members' entries' hread' hs' he => ?_⟩
  · rw [map_address_summary]
    exact nodup_eraseDups _
  · unfold ofSettings Origins.ofMembers
    simp only [Origins.addEntries_congr h]
  · have hresult' := ofSettings_result (s := { s with members := members' }) hm hi hread' hn hs'
    rw [hresult, hresult', ← names.mentionsOf_filter, he, names.mentionsOf_filter]

/-- A hostname that resolves to two addresses, one of them twice. -/
def twoAddresses : NameService :=
  .ofTable [("db.local".toList, ["10.0.0.6".toList, "10.0.0.5".toList, "10.0.0.6".toList])]

/-- Members that name an address, the hostname, a hostname that is unknown, and a pattern. -/
def mixedMembers : Settings :=
  .ofLists [] ["10.0.0.5:5701 db.local".toList, "nowhere, 10.0.0.*".toList]

/-- The address comes first, with the hostname that it was mentioned with later. -/
theorem ofSettings_eq_summary_mixed :
    (ofSettings mixedMembers twoAddresses).result =
      .ok [⟨"10.0.0.5".toList, some "db.local".toList⟩,
        ⟨"10.0.0.6".toList, some "db.local".toList⟩, ⟨"10.0.0.*".toList, none⟩] := by
  have hunknown : twoAddresses.OnlyUnknown := NameService.onlyUnknown_ofTable _
  have hread : MemberList.IsReadable mixedMembers.members :=
    (Settings.hasReadableMembers_ofLists [] hunknown.onlyUnresolved rfl (by decide +kernel) rfl).1
  obtain ⟨entries, hs, hresult, -⟩ := ofSettings_eq_summary rfl rfl hread hunknown
  cases hs
  rw [hresult]
  exact congrArg Except.ok (by decide +kernel)

end Pool

end MemberAddress
