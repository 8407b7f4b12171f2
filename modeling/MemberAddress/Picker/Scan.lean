import MemberAddress.Address
import MemberAddress.Interface
import MemberAddress.Settings

/-!
# The scan of the interfaces

The picker takes the first address of the preferred version among those that qualify, or the last
one of the other version.

* `Scan.candidate?` says whether an address qualifies: some entry of the pool selects it, or, with
  an empty pool, it is no loopback address;
* `Scan.overAddresses` and `Scan.overInterfaces` are the scan; it ends at the first address of the
  preferred version, and interfaces after that are not looked at;
* `Scan.pick` scans what the host lists.
-/

namespace MemberAddress.Scan

/-- The candidate for an address, if it qualifies: with the hostname of the first entry of the pool
that selects it, or, when the pool is empty, with none. -/
def candidate? (pool : List PoolEntry) (x : Inet) : Option Candidate :=
  if pool = [] then if x.isLoopback then none else some (Candidate.of x none 0)
  else
    (pool.find? fun entry => Pattern.selects entry.address x).map fun entry =>
      Candidate.of x entry.host 0

/-- Whether an address is of the preferred version. -/
def isPreferred (s : Settings) (x : Inet) : Bool :=
  x.version == if s.preferIPv6Addresses then .v6 else .v4

/-- Whether an address may be picked at all. -/
def isAdmitted (s : Settings) (x : Inet) : Bool := !(s.preferIPv4Stack && x.version == .v6)

/-- Where a scan stands: going on with the last candidate so far, or done. -/
inductive State
  | going (last : Option Candidate)
  | done (found : Candidate)

/-- The scan over one address. -/
def overAddress (s : Settings) (pool : List PoolEntry) (last : Option Candidate) (x : Inet) :
    State :=
  if isAdmitted s x then
    match candidate? pool x with
    | none => .going last
    | some c => if isPreferred s x then .done c else .going (some c)
  else .going last

/-- The scan over several addresses. -/
def overAddresses (s : Settings) (pool : List PoolEntry) : Option Candidate → List Inet → State
  | last, [] => .going last
  | last, x :: rest =>
    match overAddress s pool last x with
    | .done c => .done c
    | .going last => overAddresses s pool last rest

/-- The scan over several interfaces. With an empty pool, interfaces that are down, virtual or
loopback are skipped, with a record for each. -/
def overInterfaces (s : Settings) (pool : List PoolEntry) :
    Option Candidate → List Interface → List Record × Option Candidate
  | last, [] => ([], last)
  | last, i :: rest =>
    if pool.isEmpty && i.isSkipped then
      (i.skipRecord :: (overInterfaces s pool last rest).1, (overInterfaces s pool last rest).2)
    else
      match overAddresses s pool last i.addresses with
      | .done c => ([], some c)
      | .going last => overInterfaces s pool last rest

/-- The candidate among the addresses that the host lists, if any qualifies. -/
def pick (s : Settings) (pool : List PoolEntry) (listing : Listing) :
    Logged (Option Candidate) := do
  let interfaces ← listing.enumerate
  let (records, found) := overInterfaces s pool none interfaces
  ⟨records, .ok found⟩

end MemberAddress.Scan
