import MemberAddress.Picker.Choice
import MemberAddress.Proofs.Literal
import MemberAddress.Proofs.Pool
import MemberAddress.Proofs.Scan

/-!
# How an address is chosen

The choice of an address to bind to, taken apart once for all: `Choice.bind_ok_iff` says which
candidates it can give when no address is forced, `Choice.bind_error_iff` with which faults it can
fail. A candidate of the pool (`Choice.IsFromPool`) is told from one of the plain scan.
-/

namespace MemberAddress

/-! ### Zones -/

theorem Inet.version_of_bare_eq {x y : Inet} (h : x.bare = y.bare) : x.version = y.version := by
  rw [← version_bare x, h, version_bare]

namespace Listing

variable {l : Listing} {x y : Inet} {f : Fault}

theorem bare_of_sameBits (h : sameBits x y = true) : x.bare = y.bare := by
  simpa [sameBits, Inet.bare_eq_iff] using h

theorem bare_of_zoned {name : Text} (h : zoned name x = .ok y) : y.bare = x.bare := by
  unfold zoned at h
  split at h
  · split at h
    · cases h
      rfl
    · cases h
  · cases h
    rfl

/-- What is found has the bits that were looked for. -/
theorem bare_of_findZoned {pairs : List (Text × Inet)} {found : Option Inet}
    (hf : ∀ z ∈ found, z.bare = x.bare) (h : findZoned x found pairs = .ok (some y)) :
    y.bare = x.bare := by
  induction pairs generalizing found with
  | nil =>
    cases h
    exact hf y rfl
  | cons p rest ih =>
    obtain ⟨name, w⟩ := p
    unfold findZoned at h
    split at h
    · next hs =>
      split at h
      · cases h
      · split at h
        · cases h
        · next z hz =>
          refine ih ?_ h
          rintro z' ⟨⟩
          rw [bare_of_zoned hz, bare_of_sameBits hs]
    · exact ih hf h

/-- Fixing a zone changes nothing but the zone. -/
theorem bare_of_fixZone (h : (l.fixZone x).result = .ok y) : y.bare = x.bare := by
  unfold fixZone at h
  split at h
  · obtain ⟨interfaces, -, h⟩ := Logged.bind_ok_iff.1 h
    obtain ⟨found, hf, h⟩ := Logged.bind_ok_iff.1 h
    obtain rfl : found.getD x = y := by simpa using h
    cases found with
    | none => rfl
    | some z => exact bare_of_findZoned (by simp) hf
  · cases h
    rfl

theorem error_of_findZoned {pairs : List (Text × Inet)} {found : Option Inet}
    (h : findZoned x found pairs = .error f) :
    (∃ z, f = .ambiguousZone z) ∨ ∃ t, f = .badZone t := by
  induction pairs generalizing found with
  | nil => cases h
  | cons p rest ih =>
    obtain ⟨name, w⟩ := p
    unfold findZoned at h
    split at h
    · split at h
      · cases h
        exact .inl ⟨_, rfl⟩
      · split at h
        · next e he =>
          cases h
          unfold zoned at he
          split at he
          · split at he
            · cases he
            · cases he
              exact .inr ⟨_, rfl⟩
          · cases he
        · exact ih h
    · exact ih h

/-- The interfaces cannot be listed for a reason from outside. -/
theorem error_of_enumerate (h : l.enumerate.result = .error f) :
    (∃ e, f = .cannotList e) ∨ ∃ e, f = .outside e := by
  unfold enumerate at h
  cases ha : l.answer with
  | ok interfaces =>
    rw [ha] at h
    cases h
  | error e =>
    rw [ha] at h
    obtain rfl : faultOf e = f := by simpa [Except.mapError] using h
    unfold faultOf
    split <;> simp

theorem error_of_fixZone (h : (l.fixZone x).result = .error f) :
    ((∃ e, f = .cannotList e) ∨ ∃ e, f = .outside e) ∨
      (∃ z, f = .ambiguousZone z) ∨ ∃ t, f = .badZone t := by
  unfold fixZone at h
  split at h
  · rcases Logged.bind_error_iff.1 h with h | ⟨interfaces, -, h⟩
    · exact .inl (error_of_enumerate h)
    · rcases Logged.bind_error_iff.1 h with h | ⟨found, -, h⟩
      · exact .inr (error_of_findZoned h)
      · cases h
  · cases h

end Listing

namespace Choice

variable {s : Settings} {env : Surroundings} {c d : Candidate} {f : Fault}

/-! ### The steps of the choice -/

/-- Fixing the zone of a candidate keeps the bits of its address, and its hostname. -/
theorem of_fixZone {l : Listing} (h : (fixZone l c).result = .ok d) :
    d.inet.bare = c.inet.bare ∧ d.host = c.host := by
  obtain ⟨x, hx, h⟩ := Logged.bind_ok_iff.1 h
  have hb := Listing.bare_of_fixZone hx
  obtain rfl : (if x = c.inet then c else c.withInet x) = d := by simpa using h
  split
  · exact ⟨rfl, rfl⟩
  · exact ⟨by rw [Candidate.inet_withInet, hb], Candidate.host_withInet c x⟩

/-- Fixing the zone of a candidate does not change whether it may be picked. -/
theorem isAdmitted_of_fixZone {l : Listing} (h : (fixZone l c).result = .ok d) :
    Scan.isAdmitted s d.inet = Scan.isAdmitted s c.inet := by
  rw [Scan.isAdmitted, Scan.isAdmitted, Inet.version_of_bare_eq (of_fixZone h).1]

theorem error_of_fixZone {l : Listing} (h : (fixZone l c).result = .error f) :
    ((∃ e, f = .cannotList e) ∨ ∃ e, f = .outside e) ∨
      (∃ z, f = .ambiguousZone z) ∨ ∃ t, f = .badZone t := by
  rcases Logged.bind_error_iff.1 h with h | ⟨x, -, h⟩
  · exact Listing.error_of_fixZone h
  · cases h

/-- Without a match, configured interfaces are a fault; otherwise all addresses are scanned. -/
theorem result_withoutMatch (s : Settings) (l : Listing) :
    (withoutMatch s l).result =
      if s.interfacesEnabled = true then .error (.noMatchingInterface s.interfaces)
      else (Scan.pick s [] l).result := by
  unfold withoutMatch
  by_cases hi : s.interfacesEnabled = true
  · simp [hi, Except.bind]
  · by_cases hm : s.membersEnabled = true
    · simp [hi, hm, Except.bind]
    · simp [hi, hm]

/-- A candidate that the pool gives: the loopback address if the pool asks for it, else what a scan
with the pool finds. -/
def PoolGives (s : Settings) (env : Surroundings) (pool : List PoolEntry) (c : Candidate) : Prop :=
  (Pool.ofSettings s env.names).result = .ok pool ∧
    if asksForLoopback pool = true then c = .loopback
    else pool ≠ [] ∧ (Scan.pick s pool env.listing).result = .ok (some c)

/-- The pool is made and gives no candidate. -/
def PoolGivesNone (s : Settings) (env : Surroundings) : Prop :=
  ∃ pool, (Pool.ofSettings s env.names).result = .ok pool ∧ asksForLoopback pool = false ∧
    (fromPool s pool env.listing).result = .ok none

theorem fromPool_ok_some_iff {pool : List PoolEntry} {l : Listing} :
    (fromPool s pool l).result = .ok (some c) ↔
      pool ≠ [] ∧ (Scan.pick s pool l).result = .ok (some c) := by
  unfold fromPool
  by_cases hp : pool = []
  · simp [hp]
  · simp [hp]

/-- The candidate among the addresses of the host is one of the pool, or the plain scan decides. -/
theorem matching_ok_iff {found : Option Candidate} :
    (matching s env).result = .ok found ↔
      (∃ pool c, PoolGives s env pool c ∧ found = some c) ∨
        PoolGivesNone s env ∧ (withoutMatch s env.listing).result = .ok found := by
  rw [matching, Logged.bind_ok_iff]
  constructor
  · rintro ⟨pool, hp, h⟩
    -- a pool that asks for the loopback address is answered before any interface is listed
    by_cases ha : asksForLoopback pool = true
    · rw [if_pos ha, Logged.result_pure, Except.ok.injEq] at h
      exact .inl ⟨pool, .loopback, ⟨hp, by rw [if_pos ha]⟩, h.symm⟩
    · rw [if_neg ha] at h
      obtain ⟨-, -, h⟩ := Logged.bind_ok_iff.1 h
      obtain ⟨fromPool?, hf, h⟩ := Logged.bind_ok_iff.1 h
      cases fromPool? with
      | some c =>
        rw [Logged.result_pure, Except.ok.injEq] at h
        exact .inl ⟨pool, c, ⟨hp, by rw [if_neg ha]; exact fromPool_ok_some_iff.1 hf⟩, h.symm⟩
      | none => exact .inr ⟨⟨pool, hp, by simpa using ha, hf⟩, h⟩
  · rintro (⟨pool, c, ⟨hp, hc⟩, rfl⟩ | ⟨⟨pool, hp, ha, hf⟩, h⟩)
    · refine ⟨pool, hp, ?_⟩
      by_cases ha : asksForLoopback pool = true
      · rw [if_pos ha] at hc ⊢
        rw [hc, Logged.result_pure]
      · rw [if_neg ha] at hc ⊢
        exact Logged.bind_ok_iff.2 ⟨(), rfl, Logged.bind_ok_iff.2
          ⟨some c, fromPool_ok_some_iff.2 hc, rfl⟩⟩
    · refine ⟨pool, hp, ?_⟩
      rw [if_neg (by simp [ha])]
      exact Logged.bind_ok_iff.2 ⟨(), rfl, Logged.bind_ok_iff.2 ⟨none, hf, h⟩⟩

/-- The ways in which no candidate among the addresses of the host can be found. -/
theorem matching_error_iff :
    (matching s env).result = .error f ↔
      (Pool.ofSettings s env.names).result = .error f ∨
      (∃ pool, (Pool.ofSettings s env.names).result = .ok pool ∧ asksForLoopback pool = false ∧
        (fromPool s pool env.listing).result = .error f) ∨
      PoolGivesNone s env ∧ (withoutMatch s env.listing).result = .error f := by
  rw [matching, Logged.bind_error_iff]
  refine or_congr_right ⟨?_, ?_⟩
  · rintro ⟨pool, hp, h⟩
    by_cases ha : asksForLoopback pool = true
    · rw [if_pos ha] at h
      cases h
    · have ha' : asksForLoopback pool = false := by simpa using ha
      rw [if_neg ha] at h
      rcases Logged.bind_error_iff.1 h with h | ⟨-, -, h⟩
      · cases h
      · rcases Logged.bind_error_iff.1 h with h | ⟨fromPool?, hf, h⟩
        · exact .inl ⟨pool, hp, ha', h⟩
        · cases fromPool? with
          | some c => cases h
          | none => exact .inr ⟨⟨pool, hp, ha', hf⟩, h⟩
  · rintro (⟨pool, hp, ha, h⟩ | ⟨⟨pool, hp, ha, hf⟩, h⟩)
    · refine ⟨pool, hp, ?_⟩
      rw [if_neg (by simp [ha])]
      exact Logged.bind_error_iff.2 (.inr ⟨(), rfl, Logged.bind_error_iff.2 (.inl h)⟩)
    · refine ⟨pool, hp, ?_⟩
      rw [if_neg (by simp [ha])]
      exact Logged.bind_error_iff.2
        (.inr ⟨(), rfl, Logged.bind_error_iff.2 (.inr ⟨none, hf, h⟩)⟩)

/-- With a pool that does not ask for the loopback address, the pool is scanned first. -/
theorem result_matching_of_pool {pool : List PoolEntry}
    (hp : (Pool.ofSettings s env.names).result = .ok pool) (ha : asksForLoopback pool = false) :
    (matching s env).result = (fromPool s pool env.listing).result.bind fun found =>
      match found with
      | some c => .ok (some c)
      | none => (withoutMatch s env.listing).result := by
  rw [matching, Logged.result_bind, hp]
  show (if asksForLoopback pool = true then _ else _ : Logged (Option Candidate)).result = _
  rw [if_neg (by simp [ha]), Logged.result_bind, Logged.result_log]
  show (fromPool s pool env.listing >>= _).result = _
  rw [Logged.result_bind]
  refine congrArg _ (funext fun found => ?_)
  cases found with
  | some c => rfl
  | none => rfl

/-! ### The whole choice -/

/-- A candidate that comes from the pool, with the zone of its address fixed. -/
def IsFromPool (s : Settings) (env : Surroundings) (c : Candidate) : Prop :=
  ∃ pool d, PoolGives s env pool d ∧ (fixZone env.listing d).result = .ok c

/-- Without a forced address, the choice is a candidate of the pool, or one of the plain scan, or
the loopback address. -/
theorem bind_ok_iff (hl : s.localAddress = none) :
    (bind s env).result = .ok c ↔
      IsFromPool s env c ∨
        (PoolGivesNone s env ∧ ∃ found, (withoutMatch s env.listing).result = .ok found ∧
          match found with
          | some d => (fixZone env.listing d).result = .ok c
          | none => c = .loopback) := by
  have hb : (bind s env).result = .ok c ↔ ∃ found, (matching s env).result = .ok found ∧
      match found with
      | some d => (fixZone env.listing d).result = .ok c
      | none => c = .loopback := by
    unfold bind
    rw [hl, Logged.bind_ok_iff]
    refine exists_congr fun found => and_congr_right fun _ => ?_
    cases found with
    | some d => rfl
    | none => simp [eq_comm]
  rw [hb]
  -- what is left is to say where the candidate before the zone was fixed comes from
  constructor
  · rintro ⟨found, hm, hc⟩
    rcases matching_ok_iff.1 hm with ⟨pool, d, hd, rfl⟩ | ⟨hn, hw⟩
    · exact .inl ⟨pool, d, hd, hc⟩
    · exact .inr ⟨hn, found, hw, hc⟩
  · rintro (⟨pool, d, hd, hc⟩ | ⟨hn, found, hw, hc⟩)
    · exact ⟨some d, matching_ok_iff.2 (.inl ⟨pool, d, hd, rfl⟩), hc⟩
    · exact ⟨found, matching_ok_iff.2 (.inr ⟨hn, hw⟩), hc⟩

/-- Without a forced address, the choice fails when no candidate can be found or when the zone of
the candidate cannot be fixed. -/
theorem bind_error_iff (hl : s.localAddress = none) :
    (bind s env).result = .error f ↔
      (matching s env).result = .error f ∨
        ∃ d, (matching s env).result = .ok (some d) ∧
          (fixZone env.listing d).result = .error f := by
  unfold bind
  rw [hl, Logged.bind_error_iff]
  refine or_congr_right ⟨?_, ?_⟩
  · rintro ⟨found, hm, h⟩
    cases found with
    | some d => exact ⟨d, hm, h⟩
    | none => cases h
  · rintro ⟨d, hm, h⟩
    exact ⟨some d, hm, h⟩

/-- A pool asks for the loopback address by its number; no entry without a hostname is a name. -/
theorem mem_of_asksForLoopback {pool : List PoolEntry}
    (hp : (Pool.ofSettings s env.names).result = .ok pool) (ha : asksForLoopback pool = true) :
    ⟨"127.0.0.1".toList, none⟩ ∈ pool := by
  obtain ⟨name, hn, hc⟩ := List.any_eq_true.1 ha
  have hmem : ⟨name, none⟩ ∈ pool := by simpa using hc
  have hlocal : Pattern.isPattern "localhost".toList = false := by decide
  rw [loopbackNames, List.mem_pair] at hn
  rcases hn with rfl | rfl
  · exact hmem
  · rw [Pool.isPattern_of_mem hp hmem rfl] at hlocal
    cases hlocal

/-- A candidate of the pool is selected by an entry and carries the hostname of that entry. -/
theorem exists_entry_of_poolGives {pool : List PoolEntry} (h : PoolGives s env pool c) :
    ∃ e ∈ pool, Pattern.selects e.address c.inet = true ∧ c.host = e.host := by
  obtain ⟨hp, h⟩ := h
  by_cases ha : asksForLoopback pool = true
  · rw [if_pos ha] at h
    subst h
    exact ⟨_, mem_of_asksForLoopback hp ha, by decide, rfl⟩
  · rw [if_neg ha] at h
    obtain ⟨hne, h⟩ := h
    obtain ⟨interfaces, -, -, -, hc⟩ := Scan.exists_listed_of_pick h
    exact Scan.exists_entry_of_candidate? hne hc

/-- The loopback address may be picked under all settings. -/
theorem isAdmitted_loopback (s : Settings) : Scan.isAdmitted s Candidate.loopback.inet = true := by
  simp [Scan.isAdmitted, Candidate.loopback, Inet.loopback, Inet.version]

/-- A candidate of the pool may be picked under the settings. -/
theorem isAdmitted_of_poolGives {pool : List PoolEntry} (h : PoolGives s env pool c) :
    Scan.isAdmitted s c.inet = true := by
  obtain ⟨-, h⟩ := h
  by_cases ha : asksForLoopback pool = true
  · rw [if_pos ha] at h
    rw [h, isAdmitted_loopback]
  · rw [if_neg ha] at h
    obtain ⟨interfaces, -, -, had, -⟩ := Scan.exists_listed_of_pick h.2
    exact had

/-- Without a match, a candidate is found by a scan without a pool. -/
theorem pick_of_withoutMatch {l : Listing} (h : (withoutMatch s l).result = .ok (some c)) :
    (Scan.pick s [] l).result = .ok (some c) := by
  rw [result_withoutMatch] at h
  split at h
  · cases h
  · exact h

/-- Without a forced address, whatever is chosen may be picked under the settings. -/
theorem isAdmitted_of_bind (hl : s.localAddress = none) (h : (bind s env).result = .ok c) :
    Scan.isAdmitted s c.inet = true := by
  rcases (bind_ok_iff hl).1 h with ⟨pool, d, hd, hfix⟩ | ⟨-, found, hw, hc⟩
  · rw [isAdmitted_of_fixZone hfix, isAdmitted_of_poolGives hd]
  · cases found with
    | none => rw [hc, isAdmitted_loopback]
    | some d =>
      obtain ⟨interfaces, -, -, had, -⟩ := Scan.exists_listed_of_pick (pick_of_withoutMatch hw)
      rw [isAdmitted_of_fixZone hc, had]

/-- Without a match, no candidate has a hostname. -/
theorem host_of_withoutMatch {l : Listing} (h : (withoutMatch s l).result = .ok (some c)) :
    c.host = none := by
  obtain ⟨interfaces, -, -, -, hc⟩ := Scan.exists_listed_of_pick (pick_of_withoutMatch h)
  rw [Scan.candidate?, if_pos rfl] at hc
  split at hc
  · cases hc
  · rw [← Option.some.inj hc, Candidate.host_of]

/-- Only a candidate of the pool has a hostname. -/
theorem isFromPool_of_host (hl : s.localAddress = none) (h : (bind s env).result = .ok c)
    (hh : c.host ≠ none) : IsFromPool s env c := by
  rcases (bind_ok_iff hl).1 h with hp | ⟨-, found, hw, hc⟩
  · exact hp
  · cases found with
    | none =>
      subst hc
      exact absurd rfl hh
    | some d => exact absurd ((of_fixZone hc).2.trans (host_of_withoutMatch hw)) hh

/-- With configured interfaces, every candidate is one of the pool. -/
theorem isFromPool_of_interfacesEnabled (hl : s.localAddress = none)
    (hi : s.interfacesEnabled = true) (h : (bind s env).result = .ok c) : IsFromPool s env c := by
  rcases (bind_ok_iff hl).1 h with hp | ⟨-, found, hw, -⟩
  · exact hp
  · rw [result_withoutMatch, if_pos hi] at hw
    cases hw

end Choice

end MemberAddress
