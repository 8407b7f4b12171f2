import MemberAddress.Proofs.Scan

/-!
# The address that is preferred

What a scan finds, said without a loop. The addresses in question are listed first, in the order of
the interfaces (`Scan.choices`); of these, the first one of the preferred version is taken, or else
the last one (`Scan.favourite?`), with the hostname of the first entry of the pool that selects it
(`Scan.hostIn`).

* `Scan.reach_eq` and `Scan.qualified_eq` say what a scan looks at and what it makes of it;
* `Scan.pick_eq_reference` says that a scan finds just that.

No pool is the empty pool.
-/

namespace MemberAddress.Scan

variable {s : Settings} {pool : List PoolEntry}

/-! ### The reference -/

/-- The interfaces that count: all of them with a pool, and without one those that are up and
neither virtual nor loopback interfaces. -/
def interfacesFor (pool : List PoolEntry) (interfaces : List Interface) : List Interface :=
  if pool = [] then interfaces.filter fun i => i.isUp && !i.isVirtual && !i.isLoopback
  else interfaces

/-- Whether an address is in question: some entry of the pool selects it or, without a pool, it is
no loopback address. -/
def isWanted (pool : List PoolEntry) (x : Inet) : Bool :=
  if pool = [] then !x.isLoopback else pool.any fun e => Pattern.selects e.address x

/-- The addresses in question, in the order of the listing. There are none of groups when these are
ruled out. -/
def choices (s : Settings) (pool : List PoolEntry) (interfaces : List Interface) : List Inet :=
  ((interfacesFor pool interfaces).flatMap Interface.addresses).filter fun x =>
    !(s.preferIPv4Stack && x.version == .v6) && isWanted pool x

/-- The version that is preferred. -/
def preferredVersion (s : Settings) : Version := if s.preferIPv6Addresses then .v6 else .v4

/-- The first address of the preferred version, or else the last address. -/
def favourite? (s : Settings) (xs : List Inet) : Option Inet :=
  (xs.find? fun x => x.version == preferredVersion s).or xs.getLast?

/-- The hostname of the first entry of a pool that selects an address. -/
def hostIn (pool : List PoolEntry) (x : Inet) : Option Text :=
  (pool.find? fun e => Pattern.selects e.address x).bind PoolEntry.host

/-- The candidate that a scan is to find: the favourite among the addresses in question, with its
hostname and no port. -/
def reference? (s : Settings) (pool : List PoolEntry) (interfaces : List Interface) :
    Option Candidate :=
  (favourite? s (choices s pool interfaces)).map fun x => Candidate.of x (hostIn pool x) 0

theorem favourite?_eq_none_iff {xs : List Inet} : favourite? s xs = none ↔ xs = [] := by
  constructor
  · intro h
    exact List.getLast?_eq_none_iff.1 (Option.or_eq_none_iff.1 h).2
  · rintro rfl
    rfl

/-! ### The scan -/

theorem reach_eq (pool : List PoolEntry) (interfaces : List Interface) :
    reach pool interfaces = (interfacesFor pool interfaces).flatMap Interface.addresses := by
  by_cases hp : pool = []
  · have hskip : (fun i : Interface => !(pool.isEmpty && i.isSkipped)) =
        fun i => i.isUp && !i.isVirtual && !i.isLoopback := by
      funext i
      simp [hp, Interface.isSkipped, Bool.and_assoc]
    rw [reach, interfacesFor, if_pos hp, hskip]
  · have hall : (fun i : Interface => !(pool.isEmpty && i.isSkipped)) = fun _ => true := by
      funext i
      simp [hp]
    rw [reach, interfacesFor, if_neg hp, hall, List.filter_true]

/-- An address that is wanted is a candidate, with the hostname of the first entry for it. -/
theorem candidate?_eq (pool : List PoolEntry) (x : Inet) :
    candidate? pool x =
      if isWanted pool x then some (Candidate.of x (hostIn pool x) 0) else none := by
  by_cases hp : pool = []
  · subst hp
    cases hx : x.isLoopback <;> simp [candidate?, isWanted, hostIn, hx]
  · cases he : pool.find? fun e => Pattern.selects e.address x with
    | none =>
      have hnone : (pool.any fun e => Pattern.selects e.address x) = false := by
        simpa using he
      simp [candidate?, isWanted, hp, he, hnone]
    | some e =>
      have hx : Pattern.selects e.address x = true := by
        simpa using List.find?_some he
      have hsome : (pool.any fun e => Pattern.selects e.address x) = true :=
        List.any_eq_true.2 ⟨e, List.mem_of_find?_eq_some he, hx⟩
      simp [candidate?, isWanted, hostIn, hp, he, hsome]

theorem qualified_eq (s : Settings) (pool : List PoolEntry) (xs : List Inet) :
    qualified s pool xs =
      (xs.filter fun x => !(s.preferIPv4Stack && x.version == .v6) && isWanted pool x).map
        fun x => Candidate.of x (hostIn pool x) 0 := by
  induction xs with
  | nil => rfl
  | cons x xs ih =>
    rw [qualified_cons, List.filter_cons, ih, candidate?_eq, isAdmitted]
    cases s.preferIPv4Stack && x.version == .v6 <;> cases isWanted pool x <;> simp

theorem choose_qualified (s : Settings) (pool : List PoolEntry) (interfaces : List Interface) :
    choose s none (qualified s pool (reach pool interfaces)) = reference? s pool interfaces := by
  rw [qualified_eq, reach_eq, choose_map]
  rfl

/-- A scan finds the favourite among the addresses in question, and nothing exactly if there are
none; it fails only when the interfaces cannot be listed. -/
theorem pick_eq_reference (s : Settings) (pool : List PoolEntry) (l : Listing) :
    (pick s pool l).result = (l.answer.mapError Listing.faultOf).map (reference? s pool) ∧
      ∀ interfaces, reference? s pool interfaces = none ↔ choices s pool interfaces = [] := by
  constructor
  · rw [pick, Logged.result_bind, Listing.enumerate]
    cases l.answer with
    | error e => rfl
    | ok interfaces =>
      show Except.ok (overInterfaces s pool none interfaces).2 = .ok (reference? s pool interfaces)
      rw [overInterfaces_eq, choose_qualified]
  · intro interfaces
    rw [reference?, Option.map_eq_none_iff, favourite?_eq_none_iff]

end MemberAddress.Scan
