import MemberAddress.Proofs.Picking

/-!
# Hostnames are for display

When interfaces are configured, the hostnames of the members decide what is shown, and nothing else.
Taking the hostnames away changes no step of the choice:

* `Pool.exists_patterns` says that the pool is one list of patterns, whatever the members are, with
  the hostnames that the members give them;
* `Scan.pick_unnamed` says that a scan of a pool without its hostnames finds the same candidate
  without its hostname, and `Choice.amongPool_unnamed` says it of all that follows the pool;
* `Choice.bind_unnamed` compares two choices whose settings agree in all but the members.
-/

namespace MemberAddress

/-- The entry without its hostname. -/
def PoolEntry.unnamed (e : PoolEntry) : PoolEntry := { e with host := none }

/-- The candidate without its hostname. -/
def Candidate.unnamed (c : Candidate) : Candidate := { c with entry := c.entry.unnamed }

@[simp] theorem Candidate.inet_unnamed (c : Candidate) : c.unnamed.inet = c.inet := rfl

/-! ### The pool -/

namespace Pool

/-- The entry for a pattern, with the hostname that the members give it. -/
def named (origins : Origins) (pattern : Text) : PoolEntry := ⟨pattern, origins.hostFor pattern⟩

theorem named_injective (origins : Origins) : Function.Injective (named origins) := fun _ _ h =>
  congrArg PoolEntry.address h

/-- The list with one more pattern, unless it is there. -/
def addPattern (seen : List Text) (pattern : Text) : List Text :=
  if seen.contains pattern then seen else seen ++ [pattern]

/-- An entry is in the pool already exactly when its pattern is: the hostname adds nothing. -/
theorem addUnique_named (origins : Origins) (seen : List Text) (pattern : Text) :
    addUnique (seen.map (named origins)) ⟨pattern, origins.hostFor pattern⟩ =
      (addPattern seen pattern).map (named origins) := by
  have hmem : named origins pattern ∈ seen.map (named origins) ↔ seen.contains pattern = true := by
    rw [List.contains_iff_mem, List.mem_map_of_injective (named_injective origins)]
  show addUnique (seen.map (named origins)) (named origins pattern) = _
  unfold addUnique addPattern
  by_cases h : seen.contains pattern = true
  · rw [if_pos (hmem.2 h), if_pos h]
  · rw [if_neg (mt hmem.1 h), if_neg h, List.map_append, List.map_singleton]

/-- The pool is the same list of patterns, or the same fault, whatever the members are. -/
theorem exists_patterns (vs : List Value) (seen : List Text) :
    ∃ patterns : Except Fault (List Text), ∀ origins : Origins,
      (addPatterns origins (seen.map (named origins)) vs).result =
        patterns.map (List.map (named origins)) := by
  induction vs generalizing seen with
  | nil => exact ⟨.ok seen, fun origins => rfl⟩
  | cons v rest ih =>
    cases v with
    | text t =>
      by_cases hp : Pattern.isPattern (Text.trim t) = true
      · obtain ⟨patterns, h⟩ := ih (addPattern seen (Text.trim t))
        refine ⟨patterns, fun origins => ?_⟩
        rw [addPatterns, if_pos hp, addUnique_named, h origins]
      · obtain ⟨patterns, h⟩ := ih seen
        refine ⟨patterns, fun origins => ?_⟩
        rw [addPatterns, if_neg hp, Logged.result_bind, ← h origins]
        rfl
    | bytes bs =>
      obtain ⟨patterns, h⟩ := ih seen
      refine ⟨patterns, fun origins => ?_⟩
      rw [addPatterns, Logged.result_bind, ← h origins]
      rfl
    | _ => exact ⟨.error _, fun origins => rfl⟩

theorem map_unnamed_named (origins : Origins) (patterns : List Text) :
    (patterns.map (named origins)).map PoolEntry.unnamed = patterns.map fun p => ⟨p, none⟩ := by
  rw [List.map_map]
  rfl

end Pool

/-! ### The scan -/

namespace Scan

variable (s : Settings) (pool : List PoolEntry)

theorem candidate?_unnamed (x : Inet) :
    candidate? (pool.map PoolEntry.unnamed) x = (candidate? pool x).map Candidate.unnamed := by
  unfold candidate?
  by_cases hp : pool = []
  · rw [if_pos hp, if_pos (List.map_eq_nil_iff.2 hp)]
    split <;> rfl
  · rw [if_neg hp, if_neg (mt List.map_eq_nil_iff.1 hp), List.find?_map, Option.map_map,
      Option.map_map]
    rfl

theorem qualified_unnamed (xs : List Inet) :
    qualified s (pool.map PoolEntry.unnamed) xs = (qualified s pool xs).map Candidate.unnamed := by
  rw [qualified, qualified, List.map_filterMap]
  exact congrArg (List.filterMap · _) (funext (candidate?_unnamed pool))

theorem reach_unnamed (interfaces : List Interface) :
    reach (pool.map PoolEntry.unnamed) interfaces = reach pool interfaces := by
  rw [reach, reach, List.isEmpty_map]

/-- Which candidate is chosen does not depend on hostnames. -/
theorem choose_unnamed (cs : List Candidate) :
    choose s none (cs.map Candidate.unnamed) = (choose s none cs).map Candidate.unnamed := by
  rw [choose_map, choose_eq]
  rfl

/-- A scan looks at the settings only for the preferred versions, and at the pool only for the
candidates and for whether there are entries at all. -/
theorem pick_congr {s₁ s₂ : Settings} {p q : List PoolEntry} (ha : isAdmitted s₁ = isAdmitted s₂)
    (hv : isPreferred s₁ = isPreferred s₂) (hc : candidate? p = candidate? q)
    (he : p.isEmpty = q.isEmpty) (l : Listing) : (pick s₁ p l).result = (pick s₂ q l).result := by
  rw [pick, pick, Logged.result_bind, Logged.result_bind]
  refine congrArg _ (funext fun interfaces => ?_)
  show Except.ok (overInterfaces s₁ p none interfaces).2 =
    Except.ok (overInterfaces s₂ q none interfaces).2
  rw [overInterfaces_eq, overInterfaces_eq, choose, choose, qualified, qualified, reach, reach, ha,
    hv, hc, he]

/-- A scan of the pool without hostnames finds the same candidate without its hostname. -/
theorem pick_unnamed (l : Listing) :
    (pick s (pool.map PoolEntry.unnamed) l).result =
      (pick s pool l).result.map (Option.map Candidate.unnamed) := by
  rw [pick, pick, Logged.result_bind, Logged.result_bind]
  cases l.enumerate.result with
  | error f => rfl
  | ok interfaces =>
    show Except.ok (overInterfaces s (pool.map PoolEntry.unnamed) none interfaces).2 =
      Except.ok ((overInterfaces s pool none interfaces).2.map Candidate.unnamed)
    rw [overInterfaces_eq, overInterfaces_eq, reach_unnamed, qualified_unnamed, choose_unnamed]

end Scan

/-! ### The choice -/

/-- Settings that tell a scan the same. -/
structure Settings.AgreeOnInterfaces (s₁ s₂ : Settings) : Prop where
  interfaces : s₁.interfaces = s₂.interfaces
  preferIPv4Stack : s₁.preferIPv4Stack = s₂.preferIPv4Stack
  preferIPv6Addresses : s₁.preferIPv6Addresses = s₂.preferIPv6Addresses

/-- Interfaces are configured, the loopback address is not among them, no address is forced, and the
members can be read. -/
structure Settings.MatchesInterfaces (s : Settings) (names : NameService) : Prop where
  localAddress : s.localAddress = none
  interfacesEnabled : s.interfacesEnabled = true
  noLoopback : ∀ t, .text t ∈ s.interfaces → Text.trim t ≠ "127.0.0.1".toList
  readable : s.HasReadableMembers names

namespace Choice

variable {s : Settings} {env : Surroundings} {pool : List PoolEntry}

/-- What the choice comes to with a pool that must match. -/
def amongPool (s : Settings) (l : Listing) (pool : List PoolEntry) : Except Fault Candidate :=
  (fromPool s pool l).result.bind fun found =>
    match found with
    | some c => (fixZone l c).result
    | none => .error (.noMatchingInterface s.interfaces)

theorem fromPool_unnamed (s : Settings) (pool : List PoolEntry) (l : Listing) :
    (fromPool s (pool.map PoolEntry.unnamed) l).result =
      (fromPool s pool l).result.map (Option.map Candidate.unnamed) := by
  unfold fromPool
  by_cases hp : pool = []
  · rw [if_pos hp, if_pos (List.map_eq_nil_iff.2 hp)]
    rfl
  · rw [if_neg hp, if_neg (mt List.map_eq_nil_iff.1 hp), Scan.pick_unnamed]

/-- The zone of a candidate is fixed without regard to its hostname. -/
theorem fixZone_unnamed (l : Listing) (c : Candidate) :
    (fixZone l c.unnamed).result = (fixZone l c).result.map Candidate.unnamed := by
  unfold fixZone
  rw [Logged.result_bind, Logged.result_bind, Candidate.inet_unnamed]
  cases (l.fixZone c.inet).result with
  | error f => rfl
  | ok x =>
    show Except.ok (if x = c.inet then c.unnamed else c.unnamed.withInet x) =
      Except.ok (if x = c.inet then c else c.withInet x).unnamed
    split <;> rfl

/-- All that follows the pool finds the same without the hostnames. -/
theorem amongPool_unnamed (s : Settings) (l : Listing) (pool : List PoolEntry) :
    amongPool s l (pool.map PoolEntry.unnamed) = (amongPool s l pool).map Candidate.unnamed := by
  unfold amongPool
  rw [fromPool_unnamed]
  cases (fromPool s pool l).result with
  | error f => rfl
  | ok found =>
    cases found with
    | none => rfl
    | some c => exact fixZone_unnamed l c

/-- What follows the pool looks at the settings only for the patterns and the preferred versions. -/
theorem amongPool_congr {s₁ s₂ : Settings} (h : s₁.AgreeOnInterfaces s₂) (l : Listing)
    (pool : List PoolEntry) : amongPool s₁ l pool = amongPool s₂ l pool := by
  have hadmitted : Scan.isAdmitted s₁ = Scan.isAdmitted s₂ := by
    unfold Scan.isAdmitted
    rw [h.preferIPv4Stack]
  have hpreferred : Scan.isPreferred s₁ = Scan.isPreferred s₂ := by
    unfold Scan.isPreferred
    rw [h.preferIPv6Addresses]
  have hpick : (Scan.pick s₁ pool l).result = (Scan.pick s₂ pool l).result :=
    Scan.pick_congr hadmitted hpreferred rfl rfl l
  have hfrom : (fromPool s₁ pool l).result = (fromPool s₂ pool l).result := by
    unfold fromPool
    split
    · rfl
    · exact hpick
  rw [amongPool, amongPool, hfrom, h.interfaces]

/-- With configured interfaces, a pool that does not ask for the loopback address must match. -/
theorem result_bind_of_pool (hl : s.localAddress = none) (hi : s.interfacesEnabled = true)
    (hp : (Pool.ofSettings s env.names).result = .ok pool) (ha : asksForLoopback pool = false) :
    (bind s env).result = amongPool s env.listing pool := by
  unfold bind
  rw [hl, Logged.result_bind, result_matching_of_pool hp ha, amongPool, result_withoutMatch,
    if_pos hi]
  cases (fromPool s pool env.listing).result with
  | error f => rfl
  | ok found => cases found <;> rfl

/-- The pool of configured interfaces asks for the loopback address only if they name it. -/
theorem asksForLoopback_eq_false (h : s.MatchesInterfaces env.names)
    (hp : (Pool.ofSettings s env.names).result = .ok pool) : asksForLoopback pool = false := by
  by_contra ha
  have hmem := mem_of_asksForLoopback hp (by simpa using ha)
  obtain ⟨origins, -, hpool⟩ := Pool.ofSettings_ok_iff.1 hp
  rw [if_pos h.interfacesEnabled] at hpool
  rcases (Pool.mem_addPatterns hpool).1 hmem with hmem | ⟨t, ht, -, he⟩
  · cases hmem
  · exact h.noLoopback t ht (congrArg PoolEntry.address he).symm

/-- The choice among configured interfaces is made from their patterns alone; the members add the
hostnames. -/
theorem result_bind_eq (h : s.MatchesInterfaces env.names) {patterns : Except Fault (List Text)}
    (hpat : ∀ origins : Origins, (Pool.addPatterns origins [] s.interfaces).result =
      patterns.map (List.map (Pool.named origins))) :
    (bind s env).result.map Candidate.unnamed =
      patterns.bind fun ps => amongPool s env.listing (ps.map fun p => ⟨p, none⟩) := by
  obtain ⟨origins, ho⟩ := Pool.exists_originsFor h.readable
  have hpool : (Pool.ofSettings s env.names).result =
      patterns.map (List.map (Pool.named origins)) := by
    rw [Pool.ofSettings_eq, Logged.result_bind, ho]
    show (Pool.fromOrigins s origins).result = _
    rw [Pool.fromOrigins, if_pos h.interfacesEnabled, Logged.result_bind, hpat origins]
    cases patterns <;> rfl
  cases patterns with
  | error f =>
    have hbind : (bind s env).result = .error f :=
      (bind_error_iff h.localAddress).2 (.inl (matching_error_iff.2 (.inl hpool)))
    rw [hbind]
    rfl
  | ok ps =>
    have ha : asksForLoopback (ps.map (Pool.named origins)) = false :=
      asksForLoopback_eq_false h hpool
    rw [result_bind_of_pool h.localAddress h.interfacesEnabled hpool ha, ← amongPool_unnamed,
      Pool.map_unnamed_named]
    rfl

/-- Two choices among the same configured interfaces, on a host that lists the same, find the same
address or fail with the same fault, whatever members there are and whatever their hostnames are
resolved to: only the hostname that is shown may differ. -/
theorem bind_unnamed {s₁ s₂ : Settings} {env₁ env₂ : Surroundings}
    (hagree : s₁.AgreeOnInterfaces s₂) (hlisting : env₁.listing = env₂.listing)
    (h₁ : s₁.MatchesInterfaces env₁.names) (h₂ : s₂.MatchesInterfaces env₂.names) :
    (bind s₁ env₁).result.map Candidate.unnamed = (bind s₂ env₂).result.map Candidate.unnamed := by
  obtain ⟨patterns, hpat⟩ := Pool.exists_patterns s₁.interfaces []
  calc (bind s₁ env₁).result.map Candidate.unnamed
      = patterns.bind fun ps => amongPool s₁ env₁.listing (ps.map fun p => ⟨p, none⟩) :=
        result_bind_eq h₁ hpat
    _ = patterns.bind fun ps => amongPool s₂ env₂.listing (ps.map fun p => ⟨p, none⟩) := by
        rw [hlisting]
        exact congrArg patterns.bind (funext fun ps => amongPool_congr hagree env₂.listing _)
    _ = (bind s₂ env₂).result.map Candidate.unnamed :=
        (result_bind_eq h₂ (hagree.interfaces ▸ hpat)).symm

/-- With a member `web` at `10.0.0.1`, the hostname is shown with the address that is chosen without
members. -/
theorem bind_unnamed_web :
    ((bind (.ofLists ["10.0.0.*".toList] ["web".toList])
      (.knowing [("web".toList, ["10.0.0.1".toList])])).result.toOption.map Candidate.host =
        some (some "web".toList)) ∧
    ((bind (.ofLists ["10.0.0.*".toList] []) (.knowing [])).result.toOption.map Candidate.host =
      some none) ∧
    (bind (.ofLists ["10.0.0.*".toList] ["web".toList])
      (.knowing [("web".toList, ["10.0.0.1".toList])])).result.map Candidate.unnamed =
      (bind (.ofLists ["10.0.0.*".toList] []) (.knowing [])).result.map Candidate.unnamed := by
  have hno : ∀ t, Value.text t ∈ ["10.0.0.*".toList].map Value.text →
      Text.trim t ≠ "127.0.0.1".toList := by
    intro t ht
    obtain ⟨u, hu, he⟩ := List.mem_map.1 ht
    cases he
    rw [List.mem_singleton.1 hu]
    decide
  have hmembers (members entries : List Text) (table : List (Text × List Text))
      (hs : MemberList.split (members.map .text) = .ok entries)
      (h : ∀ entry ∈ entries, (HostPort.split entry).isOk = true) :
      (Settings.ofLists ["10.0.0.*".toList] members).MatchesInterfaces (.ofTable table) :=
    ⟨rfl, rfl, hno,
      Settings.hasReadableMembers_ofLists _ (NameService.onlyUnresolved_ofTable table) hs h⟩
  exact ⟨by decide +kernel, by decide +kernel, bind_unnamed ⟨rfl, rfl, rfl⟩ rfl
    (hmembers ["web".toList] ["web".toList] _ rfl (by decide +kernel))
    (hmembers [] [] [] rfl (by decide +kernel))⟩

end Choice

end MemberAddress
