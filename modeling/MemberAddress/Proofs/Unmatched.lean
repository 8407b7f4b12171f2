import MemberAddress.Proofs.Picking
import MemberAddress.Proofs.Preference

/-!
# Members that match nothing

Members are a preference. When none of them is an address of the host, the choice is made as if they
were not there.

* `Scan.automatic?` says without a loop which address is found when nothing is configured, and
  `Scan.pick_nil` that a scan without a pool finds it;
* `Choice.automatic` is the whole choice when nothing is configured;
* `Choice.Unmatched` says that a pool selects nothing, and `Choice.bind_of_unmatched` that the
  choice is then the automatic one, with the members and without them.
-/

namespace MemberAddress

/-! ### The automatic scan -/

namespace Scan

variable {s : Settings} {pool : List PoolEntry} {l : Listing}

/-- The addresses that an automatic choice is made from: those of interfaces that are up and neither
virtual nor loopback interfaces, without loopback addresses and those that are ruled out. -/
def eligible (s : Settings) (interfaces : List Interface) : List Inet :=
  ((interfaces.filter fun i => i.isUp && !i.isVirtual && !i.isLoopback).flatMap
    Interface.addresses).filter fun x => isAdmitted s x && !x.isLoopback

/-- The first of these addresses that has the preferred version, or else the last of them. -/
def automatic? (s : Settings) (interfaces : List Interface) : Option Inet :=
  ((eligible s interfaces).find? (isPreferred s)).or (eligible s interfaces).getLast?

/-- Without a pool, these addresses are the candidates. -/
theorem qualified_reach_nil (interfaces : List Interface) :
    qualified s [] (reach [] interfaces) =
      (eligible s interfaces).map fun x => Candidate.of x none 0 := by
  rw [qualified_eq, reach_eq]
  rfl

/-- A scan without a pool finds what is found automatically. -/
theorem pick_nil (l : Listing) :
    (pick s [] l).result = l.enumerate.result.map fun interfaces =>
      (automatic? s interfaces).map fun x => Candidate.of x none 0 := by
  rw [pick, Logged.result_bind]
  cases l.enumerate.result with
  | error f => rfl
  | ok interfaces =>
    show Except.ok (overInterfaces s [] none interfaces).2 =
      Except.ok ((automatic? s interfaces).map fun x => Candidate.of x none 0)
    rw [overInterfaces_eq, qualified_reach_nil, choose_map]
    rfl

/-- No entry of a pool selects an address of the host that may be picked. -/
def SelectsNone (s : Settings) (l : Listing) (pool : List PoolEntry) : Prop :=
  ∀ interfaces, l.answer = .ok interfaces → ∀ i ∈ interfaces, ∀ x ∈ i.addresses,
    isAdmitted s x = true → ∀ e ∈ pool, Pattern.selects e.address x = false

/-- A scan with a pool that selects none of the addresses finds nothing. -/
theorem pick_eq_none (hp : pool ≠ []) (h : SelectsNone s l pool) :
    (pick s pool l).result = l.enumerate.result.map fun _ => none := by
  cases hk : (pick s pool l).result with
  | error f =>
    rw [pick_error_iff.1 hk]
    rfl
  | ok found =>
    cases found with
    | none =>
      obtain ⟨interfaces, ha, -⟩ := pick_ok_iff.1 hk
      have hl : l.enumerate.result = .ok interfaces := by
        unfold Listing.enumerate
        rw [ha]
        rfl
      rw [hl]
      rfl
    | some c =>
      obtain ⟨interfaces, ha, hreach, hadmitted, hc⟩ := exists_listed_of_pick hk
      obtain ⟨i, hi, hx⟩ := List.mem_flatMap.1 hreach
      obtain ⟨e, he, hs, -⟩ := exists_entry_of_candidate? hp hc
      rw [h interfaces ha i (List.mem_of_mem_filter hi) c.inet hx hadmitted e he] at hs
      cases hs

end Scan

namespace Choice

variable {s : Settings} {env : Surroundings} {pool : List PoolEntry}

/-- The choice when nothing is configured: what is found automatically, with its zone, or else the
loopback address. -/
def automatic (s : Settings) (l : Listing) : Except Fault Candidate :=
  l.enumerate.result.bind fun interfaces =>
    match Scan.automatic? s interfaces with
    | some x => (fixZone l (.of x none 0)).result
    | none => .ok .loopback

/-- A pool that does not ask for the loopback address and selects none of the addresses. -/
structure Unmatched (s : Settings) (l : Listing) (pool : List PoolEntry) : Prop where
  noLoopback : ⟨"127.0.0.1".toList, none⟩ ∉ pool
  selectsNone : Scan.SelectsNone s l pool

/-- Nothing is left of the scan with a pool that selects nothing. -/
theorem result_matching_of_unmatched (hi : s.interfacesEnabled = false)
    (hp : (Pool.ofSettings s env.names).result = .ok pool) (hu : Unmatched s env.listing pool) :
    (matching s env).result = (Scan.pick s [] env.listing).result := by
  have ha : asksForLoopback pool = false := by
    by_contra ha
    exact hu.noLoopback (mem_of_asksForLoopback hp (by simpa using ha))
  have hw : (withoutMatch s env.listing).result = (Scan.pick s [] env.listing).result := by
    rw [result_withoutMatch, if_neg (by simp [hi])]
  rw [result_matching_of_pool hp ha, hw, fromPool]
  by_cases hne : pool = []
  · rw [if_pos hne]
    rfl
  · -- both scans ask for the same interfaces, so that a fault of the first is one of the second
    rw [if_neg hne, Scan.pick_eq_none hne hu.selectsNone, Scan.pick_nil]
    cases env.listing.enumerate.result <;> rfl

/-- With a pool that selects nothing, the choice is the automatic one. -/
theorem result_bind_of_unmatched (hl : s.localAddress = none) (hi : s.interfacesEnabled = false)
    (hp : (Pool.ofSettings s env.names).result = .ok pool) (hu : Unmatched s env.listing pool) :
    (bind s env).result = automatic s env.listing := by
  unfold bind automatic
  rw [hl, Logged.result_bind, result_matching_of_unmatched hi hp hu, Scan.pick_nil]
  cases env.listing.enumerate.result with
  | error f => rfl
  | ok interfaces =>
    simp only [Except.map, Except.bind]
    cases Scan.automatic? s interfaces <;> rfl

/-- Without members and without configured interfaces, the choice is the automatic one. -/
theorem result_bind_of_membersDisabled (hl : s.localAddress = none)
    (hi : s.interfacesEnabled = false) (hm : s.membersEnabled = false) :
    (bind s env).result = automatic s env.listing := by
  have hp : (Pool.ofSettings s env.names).result = .ok [] :=
    Pool.ofSettings_ok_iff.2 ⟨[], by simp [Pool.originsFor, hm], by simp [hi, hm]⟩
  exact result_bind_of_unmatched hl hi hp ⟨by simp, by simp [Scan.SelectsNone]⟩

/-- Members that can be read make a pool, without interfaces that are configured. When that pool
selects nothing, the choice is the automatic one, as it is without members: the same candidate, or
the same fault. -/
theorem bind_of_unmatched (hl : s.localAddress = none) (hi : s.interfacesEnabled = false)
    (hr : s.HasReadableMembers env.names) :
    ∃ pool, (Pool.ofSettings s env.names).result = .ok pool ∧
      (Unmatched s env.listing pool →
        (bind s env).result = automatic s env.listing ∧
          (bind { s with membersEnabled := false } env).result = automatic s env.listing) := by
  obtain ⟨origins, ho⟩ := Pool.exists_originsFor hr
  have hp : (Pool.ofSettings s env.names).result =
      .ok (if s.membersEnabled then Pool.ofOrigins origins else []) :=
    Pool.ofSettings_ok_iff.2 ⟨origins, ho, by rw [if_neg (by simp [hi])]⟩
  exact ⟨_, hp, fun hu => ⟨result_bind_of_unmatched hl hi hp hu,
    result_bind_of_membersDisabled (s := { s with membersEnabled := false }) hl hi rfl⟩⟩

/-- A pattern of another network and a hostname that nobody knows leave the address of the host. -/
theorem bind_of_unmatched_elsewhere :
    let s : Settings := .ofLists [] ["10.9.*.*:5701".toList, "nowhere".toList]
    let env : Surroundings := .oneAddress
    let pool : List PoolEntry := [⟨"10.9.*.*".toList, none⟩]
    (Pool.ofSettings s env.names).result = .ok pool ∧ Unmatched s env.listing pool ∧
      (bind s env).result = .ok (.of (.v4 0x0a000001) none 0) ∧
      (bind { s with membersEnabled := false } env).result = .ok (.of (.v4 0x0a000001) none 0) := by
  intro s env pool
  have hpool : (Pool.ofSettings s env.names).result = .ok pool :=
    Except.eq_ok_of_toOption (by decide +kernel)
  have hreadable : s.HasReadableMembers env.names :=
    have hsplit : MemberList.split s.members =
        .ok ["10.9.*.*:5701".toList, "nowhere".toList] := rfl
    Settings.hasReadableMembers_ofLists [] (NameService.onlyUnresolved_ofTable []) hsplit
      (by decide +kernel)
  have hunmatched : Unmatched s env.listing pool := by
    refine ⟨by decide, ?_⟩
    rintro interfaces ⟨⟩
    decide +kernel
  have hautomatic : automatic s env.listing = .ok (.of (.v4 0x0a000001) none 0) :=
    Except.eq_ok_of_toOption (by decide +kernel)
  obtain ⟨pool', hp, hbind⟩ := @bind_of_unmatched s env rfl rfl hreadable
  obtain rfl : pool = pool' := Except.ok.inj (hpool.symm.trans hp)
  rw [hautomatic] at hbind
  exact ⟨hpool, hunmatched, (hbind hunmatched).1, (hbind hunmatched).2⟩

end Choice

end MemberAddress
