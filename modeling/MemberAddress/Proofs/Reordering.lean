import MemberAddress.Proofs.Display

/-!
# Order and repetition of the configured entries

Which address is chosen does not depend on the order of the configured patterns or members, nor on
how often each of them is named.

* `Pool.Alike` says that two pools hold the same addresses and the same of them without a hostname;
* `Origins.Traces.alike` says it of the pools of members that name the same hosts;
* `Choice.afterPool_alike` says that all that follows the pool is the same for such pools, up to the
  hostname that is shown;
* `Choice.decided_reordered` compares the choices of settings that list the same entries.
-/

namespace MemberAddress

/-! ### Pools -/

namespace Pool

variable {p q : List PoolEntry}

/-- Two pools hold the same addresses, and the same of them without a hostname. -/
structure Alike (p q : List PoolEntry) : Prop where
  addresses : ∀ a, a ∈ p.map PoolEntry.address ↔ a ∈ q.map PoolEntry.address
  unnamed : ∀ a, ⟨a, none⟩ ∈ p ↔ ⟨a, none⟩ ∈ q

theorem Alike.of_mem_iff (h : ∀ e, e ∈ p ↔ e ∈ q) : Alike p q where
  addresses a := by simp only [List.mem_map, h]
  unnamed a := h ⟨a, none⟩

theorem Alike.eq_nil_iff (h : Alike p q) : p = [] ↔ q = [] := by
  simp only [← List.map_eq_nil_iff (f := PoolEntry.address), List.eq_nil_iff_forall_not_mem,
    h.addresses]

theorem Alike.asksForLoopback_eq (h : Alike p q) :
    Choice.asksForLoopback p = Choice.asksForLoopback q := by
  rw [Bool.eq_iff_iff]
  simp only [Choice.asksForLoopback, List.any_eq_true, List.contains_iff_mem, h.unnamed]

end Pool

/-! ### The pools of members -/

namespace Origins

variable {names : NameService} {hosts hosts' : List Text} {origins origins' : Origins} {a : Text}

/-- An address is an answer for one of the hostnames. -/
def IsAnswer (names : NameService) (hosts : List Text) (a : Text) : Prop :=
  ∃ host ∈ hosts, Pattern.isPattern host = false ∧
    ∃ answers, (names.resolve host).result = .ok answers ∧ a ∈ answers

theorem Traces.exists_named_iff (h : Traces names hosts origins) :
    (∃ host, (a, some host) ∈ origins) ↔ IsAnswer names hosts a := by
  constructor
  · rintro ⟨host, hm⟩
    obtain ⟨hh, hp, hr⟩ := h.resolved a host hm
    exact ⟨host, hh, hp, hr⟩
  · rintro ⟨host, hh, hp, answers, hr, ha⟩
    exact h.hosted host hh hp answers hr a ha

/-- An address stands in the map without a hostname when it is named itself and no hostname leads to
it. -/
theorem Traces.unnamed_iff (h : Traces names hosts origins) :
    (a, none) ∈ origins ↔ (a ∈ hosts ∧ Pattern.isPattern a = true) ∧ ¬ IsAnswer names hosts a := by
  rw [← h.exists_named_iff]
  constructor
  · intro hm
    refine ⟨h.literal a hm, ?_⟩
    rintro ⟨host, hm'⟩
    cases eq_of_mem_of_nodup h.nodup hm hm'
  · rintro ⟨⟨hh, hp⟩, hnone⟩
    obtain ⟨o, hm⟩ := exists_mem_of_mem_keys (h.listed a hh hp)
    cases o with
    | none => exact hm
    | some host => exact absurd ⟨host, hm⟩ hnone

theorem mem_addresses_ofOrigins :
    a ∈ (Pool.ofOrigins origins).map PoolEntry.address ↔
      (∃ host, (a, some host) ∈ origins) ∨ (a, none) ∈ origins := by
  simp only [List.mem_map, Pool.mem_ofOrigins]
  constructor
  · rintro ⟨⟨b, o⟩, hm, rfl⟩
    cases o with
    | none => exact .inr hm
    | some host => exact .inl ⟨host, hm⟩
  · rintro (⟨host, hm⟩ | hm)
    · exact ⟨⟨a, some host⟩, hm, rfl⟩
    · exact ⟨⟨a, none⟩, hm, rfl⟩

/-- The same hosts make alike pools, whatever order they are read in. -/
theorem Traces.alike (h : Traces names hosts origins) (h' : Traces names hosts' origins')
    (hh : ∀ host, host ∈ hosts ↔ host ∈ hosts') :
    Pool.Alike (Pool.ofOrigins origins) (Pool.ofOrigins origins') := by
  have hanswer (a : Text) : IsAnswer names hosts a ↔ IsAnswer names hosts' a := by
    simp only [IsAnswer, hh]
  have hunnamed (a : Text) : (a, none) ∈ origins ↔ (a, none) ∈ origins' := by
    rw [h.unnamed_iff, h'.unnamed_iff, hh, hanswer]
  constructor
  · intro a
    rw [mem_addresses_ofOrigins, mem_addresses_ofOrigins, hunnamed, h.exists_named_iff,
      h'.exists_named_iff, hanswer]
  · intro a
    rw [Pool.mem_ofOrigins, Pool.mem_ofOrigins]
    exact hunnamed a

end Origins

namespace MemberList

variable {members members' : List Value} {entries' : List Text} {entry host : Text}

/-- The entries of a list are those of its members. -/
theorem mem_of_split {all : List Text} (h : split members = .ok all) :
    entry ∈ all ↔ ∃ v ∈ members, ∃ t, memberText v = .ok t ∧ entry ∈ entries t := by
  induction members generalizing all with
  | nil =>
    cases h
    simp
  | cons v rest ih =>
    unfold split at h
    split at h
    · cases h
    · next t ht =>
      split at h
      · cases h
      · next more hmore =>
        cases h
        simp [ih hmore, ht]

theorem hasHost_congr (hm : ∀ v, v ∈ members' ↔ v ∈ members)
    {all all' : List Text} (h : split members = .ok all) (h' : split members' = .ok all') :
    HasHost members' host ↔ HasHost members host := by
  have hentries (entry : Text) : entry ∈ all' ↔ entry ∈ all := by
    simp only [mem_of_split h, mem_of_split h', hm]
  simp only [HasHost, h, h', Except.ok.injEq, exists_eq_left', hentries]

/-- A list that names the same members can be read as well. -/
theorem IsReadable.congr (h : IsReadable members) (hm : ∀ v, v ∈ members' ↔ v ∈ members) :
    IsReadable members' where
  texts v hv := h.texts v ((hm v).1 hv)
  ports all' h' entry he := by
    obtain ⟨all, hall⟩ := exists_split h.texts
    refine h.ports all hall entry ?_
    rw [mem_of_split hall]
    simpa only [hm] using (mem_of_split h').1 he

end MemberList

/-! ### The scan -/

namespace Scan

variable {s : Settings} {p q : List PoolEntry}

/-- Up to its hostname, a candidate of a pool says only that some entry selects the address. -/
theorem map_unnamed_candidate? (hp : p ≠ []) (x : Inet) :
    (candidate? p x).map Candidate.unnamed =
      if (p.map PoolEntry.address).any (Pattern.selects · x) = true then some (.of x none 0)
      else none := by
  rw [candidate?, if_neg hp, List.any_map]
  cases hf : p.find? fun e => Pattern.selects e.address x with
  | none =>
    have hany : p.any ((Pattern.selects · x) ∘ PoolEntry.address) = false :=
      List.any_eq_false.2 (List.find?_eq_none.1 hf)
    rw [hany]
    rfl
  | some e =>
    have hany : p.any ((Pattern.selects · x) ∘ PoolEntry.address) = true :=
      List.any_eq_true.2 ⟨e, List.mem_of_find?_eq_some hf, List.find?_some hf⟩
    rw [hany]
    rfl

theorem candidate?_alike (h : Pool.Alike p q) (x : Inet) :
    (candidate? p x).map Candidate.unnamed = (candidate? q x).map Candidate.unnamed := by
  by_cases hp : p = []
  · rw [hp, h.eq_nil_iff.1 hp]
  · have hany : (p.map PoolEntry.address).any (Pattern.selects · x) =
        (q.map PoolEntry.address).any (Pattern.selects · x) := by
      rw [Bool.eq_iff_iff, List.any_eq_true, List.any_eq_true]
      simp only [h.addresses]
    rw [map_unnamed_candidate? hp, map_unnamed_candidate? (mt h.eq_nil_iff.2 hp), hany]

/-- A scan finds the same in alike pools, up to the hostname. -/
theorem pick_alike (h : Pool.Alike p q) (l : Listing) :
    (pick s p l).result.map (Option.map Candidate.unnamed) =
      (pick s q l).result.map (Option.map Candidate.unnamed) := by
  rw [← pick_unnamed, ← pick_unnamed]
  refine pick_congr rfl rfl (funext fun x => ?_) ?_ l
  · rw [candidate?_unnamed, candidate?_unnamed, candidate?_alike h]
  · rw [List.isEmpty_map, List.isEmpty_map, Bool.eq_iff_iff, List.isEmpty_iff, List.isEmpty_iff,
      h.eq_nil_iff]

end Scan

/-! ### The choice -/

/-- The fault without the list of patterns that it may carry. -/
def Fault.unlisted : Fault → Fault
  | .noMatchingInterface _ => .noMatchingInterface []
  | f => f

namespace Choice

variable {s s₁ s₂ : Settings} {env : Surroundings} {l : Listing} {p q : List PoolEntry}

/-- The zone is fixed of what was found among the addresses of the host; the loopback address stands
in for nothing. -/
def orLoopback (l : Listing) : Option Candidate → Except Fault Candidate
  | some c => (fixZone l c).result
  | none => .ok .loopback

/-- All that follows a scan of the pool. -/
def afterScan (s : Settings) (l : Listing) : Option Candidate → Except Fault Candidate
  | some c => (fixZone l c).result
  | none => (withoutMatch s l).result.bind (orLoopback l)

/-- All that follows the pool. -/
def afterPool (s : Settings) (l : Listing) (pool : List PoolEntry) : Except Fault Candidate :=
  if asksForLoopback pool then .ok .loopback
  else (fromPool s pool l).result.bind (afterScan s l)

/-- What a choice decides: the candidate up to its hostname, or the fault up to the patterns that it
lists. -/
def decided (s : Settings) (env : Surroundings) : Except Fault Candidate :=
  ((bind s env).result.map Candidate.unnamed).mapError Fault.unlisted

theorem result_bind_of_ofSettings (hl : s.localAddress = none)
    (hp : (Pool.ofSettings s env.names).result = .ok p) :
    (bind s env).result = afterPool s env.listing p := by
  have hbind : (bind s env).result = (matching s env).result.bind (orLoopback env.listing) := by
    unfold bind
    rw [hl, Logged.result_bind]
    refine congrArg _ (funext fun found => ?_)
    cases found <;> rfl
  rw [hbind, afterPool]
  cases ha : asksForLoopback p with
  | true =>
    rw [matching, Logged.result_bind, hp]
    show (if asksForLoopback p = true then _ else _ : Logged (Option Candidate)).result.bind _ = _
    rw [if_pos ha]
    rfl
  | false =>
    rw [result_matching_of_pool hp ha]
    cases (fromPool s p env.listing).result with
    | error f => rfl
    | ok found => cases found <;> rfl

theorem fromPool_alike (h : Pool.Alike p q) :
    (fromPool s p l).result.map (Option.map Candidate.unnamed) =
      (fromPool s q l).result.map (Option.map Candidate.unnamed) := by
  unfold fromPool
  by_cases hp : p = []
  · rw [if_pos hp, if_pos (h.eq_nil_iff.1 hp)]
  · rw [if_neg hp, if_neg (mt h.eq_nil_iff.2 hp), Scan.pick_alike h]

theorem afterScan_unnamed (found : Option Candidate) :
    (afterScan s l (found.map Candidate.unnamed)).map Candidate.unnamed =
      (afterScan s l found).map Candidate.unnamed := by
  cases found with
  | none => rfl
  | some c =>
    show (fixZone l c.unnamed).result.map Candidate.unnamed = _
    rw [fixZone_unnamed]
    show _ = (fixZone l c).result.map Candidate.unnamed
    cases (fixZone l c).result <;> rfl

/-- All that follows the pool is the same for alike pools, up to the hostname. -/
theorem afterPool_alike (s : Settings) (l : Listing) (h : Pool.Alike p q) :
    (afterPool s l p).map Candidate.unnamed = (afterPool s l q).map Candidate.unnamed := by
  -- what a scan finds may lose its hostname before the rest of the choice, too
  have hearly (x : Except Fault (Option Candidate)) :
      (x.bind (afterScan s l)).map Candidate.unnamed =
        ((x.map (Option.map Candidate.unnamed)).bind (afterScan s l)).map Candidate.unnamed := by
    cases x with
    | error f => rfl
    | ok found => exact (afterScan_unnamed found).symm
  unfold afterPool
  rw [h.asksForLoopback_eq]
  split
  · rfl
  · rw [hearly, fromPool_alike h, ← hearly]

/-- All that follows the pool looks at the settings for the preferred versions and for whether
interfaces are configured; the patterns themselves are only listed. -/
theorem afterPool_congr (hi : s₁.interfacesEnabled = s₂.interfacesEnabled)
    (h4 : s₁.preferIPv4Stack = s₂.preferIPv4Stack)
    (h6 : s₁.preferIPv6Addresses = s₂.preferIPv6Addresses) (l : Listing) (p : List PoolEntry) :
    (afterPool s₁ l p).mapError Fault.unlisted = (afterPool s₂ l p).mapError Fault.unlisted := by
  have hpick (p : List PoolEntry) : (Scan.pick s₁ p l).result = (Scan.pick s₂ p l).result := by
    refine Scan.pick_congr ?_ ?_ rfl rfl l
    · unfold Scan.isAdmitted
      rw [h4]
    · unfold Scan.isPreferred
      rw [h6]
  have hfrom : (fromPool s₁ p l).result = (fromPool s₂ p l).result := by
    unfold fromPool
    split
    · rfl
    · exact hpick p
  have hscan (found : Option Candidate) : (afterScan s₁ l found).mapError Fault.unlisted =
      (afterScan s₂ l found).mapError Fault.unlisted := by
    cases found with
    | some c => rfl
    | none =>
      rw [afterScan, afterScan, result_withoutMatch, result_withoutMatch, hi]
      split
      · rfl
      · rw [hpick]
  unfold afterPool
  split
  · rfl
  · rw [hfrom]
    cases (fromPool s₂ p l).result with
    | error f => rfl
    | ok found => exact hscan found

/-- Alike pools decide the same, under settings that differ in nothing but the lists that make the
pools. -/
theorem decided_alike (hl₁ : s₁.localAddress = none) (hl₂ : s₂.localAddress = none)
    (hi : s₁.interfacesEnabled = s₂.interfacesEnabled)
    (h4 : s₁.preferIPv4Stack = s₂.preferIPv4Stack)
    (h6 : s₁.preferIPv6Addresses = s₂.preferIPv6Addresses)
    (hp : (Pool.ofSettings s₁ env.names).result = .ok p)
    (hq : (Pool.ofSettings s₂ env.names).result = .ok q) (h : Pool.Alike p q) :
    decided s₁ env = decided s₂ env := by
  have hswap (x : Except Fault Candidate) : (x.map Candidate.unnamed).mapError Fault.unlisted =
      (x.mapError Fault.unlisted).map Candidate.unnamed := by
    cases x <;> rfl
  calc decided s₁ env
      = ((afterPool s₁ env.listing p).map Candidate.unnamed).mapError Fault.unlisted := by
        rw [decided, result_bind_of_ofSettings hl₁ hp]
    _ = ((afterPool s₁ env.listing q).map Candidate.unnamed).mapError Fault.unlisted := by
        rw [afterPool_alike s₁ env.listing h]
    _ = ((afterPool s₂ env.listing q).map Candidate.unnamed).mapError Fault.unlisted := by
        rw [hswap, hswap, afterPool_congr hi h4 h6]
    _ = decided s₂ env := by
        rw [decided, result_bind_of_ofSettings hl₂ hq]

/-- The order of the configured patterns, and how often each is named, decides nothing but the
hostname that is shown. -/
theorem decided_patterns {vs : List Value} (hl : s.localAddress = none)
    (hi : s.interfacesEnabled = true) (htexts : ∀ v ∈ s.interfaces, ∃ t, v = .text t)
    (hvs : ∀ v, v ∈ vs ↔ v ∈ s.interfaces) :
    decided { s with interfaces := vs } env = decided s env := by
  cases ho : (Pool.originsFor s env.names).result with
  | error f =>
    -- the members are read first, and they are the same
    have hfault (ws : List Value) :
        (bind { s with interfaces := ws } env).result = .error f := by
      refine (bind_error_iff (s := { s with interfaces := ws }) hl).2
        (.inl (matching_error_iff.2 (.inl ?_)))
      rw [Pool.ofSettings_eq, Logged.result_bind]
      show (Pool.originsFor s env.names).result.bind _ = _
      rw [ho]
      rfl
    rw [decided, decided, hfault vs, show (bind s env).result = .error f from hfault s.interfaces]
  | ok origins =>
    obtain ⟨p, hp⟩ := Pool.exists_addPatterns origins
      (fun v hv => htexts v ((hvs v).1 hv) : ∀ v ∈ vs, ∃ t, v = .text t) []
    obtain ⟨q, hq⟩ := Pool.exists_addPatterns origins htexts []
    have hsame (e : PoolEntry) : e ∈ p ↔ e ∈ q := by
      rw [Pool.mem_addPatterns hp, Pool.mem_addPatterns hq]
      simp only [hvs]
    exact decided_alike hl hl rfl rfl rfl
      (Pool.ofSettings_ok_iff.2 ⟨origins, ho, by rwa [if_pos hi]⟩)
      (Pool.ofSettings_ok_iff.2 ⟨origins, ho, by rwa [if_pos hi]⟩) (.of_mem_iff hsame)

/-- The order of the members, and how often each is named, decides nothing but the hostname that is
shown. -/
theorem decided_members {vs : List Value} (hl : s.localAddress = none)
    (hi : s.interfacesEnabled = false) (hm : s.membersEnabled = true)
    (hread : s.HasReadableMembers env.names) (hvs : ∀ v, v ∈ vs ↔ v ∈ s.members) :
    decided { s with members := vs } env = decided s env := by
  obtain ⟨hreadable, hn⟩ := hread hm
  have hread' : ({ s with members := vs } : Settings).HasReadableMembers env.names :=
    fun _ => ⟨hreadable.congr hvs, hn⟩
  obtain ⟨origins, ho⟩ := Pool.exists_originsFor hread
  obtain ⟨origins', ho'⟩ := Pool.exists_originsFor hread'
  obtain ⟨hosts, hh, ht⟩ := Pool.traces_originsFor ho
  obtain ⟨hosts', hh', ht'⟩ := Pool.traces_originsFor ho'
  have hhosts (host : Text) : host ∈ hosts' ↔ host ∈ hosts := by
    obtain ⟨all, hall⟩ := MemberList.exists_split hreadable.texts
    obtain ⟨all', hall'⟩ := MemberList.exists_split (hreadable.congr hvs).texts
    rw [hh, hh', MemberList.hasHost_congr hvs hall hall']
  have hpool {t : Settings} {o : Origins} (hi : t.interfacesEnabled = false)
      (hm : t.membersEnabled = true) (ho : (Pool.originsFor t env.names).result = .ok o) :
      (Pool.ofSettings t env.names).result = .ok (Pool.ofOrigins o) :=
    Pool.ofSettings_ok_iff.2 ⟨o, ho, by simp [hi, hm]⟩
  exact decided_alike hl hl rfl rfl rfl (hpool hi hm ho')
    (hpool hi hm ho) (ht'.alike ht hhosts)

/-- Without a forced address, the entries that count may be listed in any order and any number of
times: the patterns when interfaces are configured, and the members otherwise. The address that is
chosen, or the fault, stays the same; only the hostname that is shown may differ, and the list of
patterns that a fault carries. -/
theorem decided_reordered (hl : s.localAddress = none) (vs : List Value) :
    (s.interfacesEnabled = true → (∀ v ∈ s.interfaces, ∃ t, v = .text t) →
      (∀ v, v ∈ vs ↔ v ∈ s.interfaces) →
        decided { s with interfaces := vs } env = decided s env) ∧
    (s.interfacesEnabled = false → s.membersEnabled = true → s.HasReadableMembers env.names →
      (∀ v, v ∈ vs ↔ v ∈ s.members) → decided { s with members := vs } env = decided s env) :=
  ⟨decided_patterns hl, decided_members hl⟩

/-- Two patterns in the other order, and two members in the other order, lead to the same address
under another name. -/
theorem decided_reordered_renamed :
    let s : Settings := .ofLists ["10.0.0.*".toList, "10.0.0.1".toList] ["web".toList]
    let env : Surroundings := .knowing [("web".toList, ["10.0.0.9".toList])]
    let vs : List Value := ["10.0.0.1".toList, "10.0.0.*".toList, "10.0.0.1".toList].map .text
    let s' : Settings := .ofLists [] ["web".toList, "db".toList]
    let env' : Surroundings :=
      .knowing [("web".toList, ["10.0.0.1".toList]), ("db".toList, ["10.0.0.1".toList])]
    let vs' : List Value := ["db".toList, "db".toList, "web".toList].map .text
    ((bind s env).result.toOption.map Candidate.host = some (some "web".toList) ∧
      (bind { s with interfaces := vs } env).result.toOption.map Candidate.host = some none ∧
      decided { s with interfaces := vs } env = decided s env) ∧
    ((bind s' env').result.toOption.map Candidate.host = some (some "db".toList) ∧
      (bind { s' with members := vs' } env').result.toOption.map Candidate.host =
        some (some "web".toList) ∧
      decided { s' with members := vs' } env' = decided s' env') := by
  intro s env vs s' env' vs'
  have htexts : ∀ v ∈ s.interfaces, ∃ t, v = .text t := by
    simp [s, Settings.ofLists]
  have hvs : ∀ v, v ∈ vs ↔ v ∈ s.interfaces := by
    intro v
    simp [vs, s, Settings.ofLists]
    tauto
  have hread : s'.HasReadableMembers env'.names :=
    have hsplit : MemberList.split s'.members = .ok ["web".toList, "db".toList] := rfl
    Settings.hasReadableMembers_ofLists [] (NameService.onlyUnresolved_ofTable _) hsplit
      (by decide +kernel)
  have hvs' : ∀ v, v ∈ vs' ↔ v ∈ s'.members := by
    intro v
    simp [vs', s', Settings.ofLists]
    tauto
  refine ⟨⟨by decide +kernel, by decide +kernel, ?_⟩, by decide +kernel, by decide +kernel, ?_⟩
  · exact (decided_reordered (s := s) rfl vs).1 rfl htexts hvs
  · exact (decided_reordered (s := s') rfl vs').2 rfl rfl hread hvs'

end Choice

end MemberAddress
