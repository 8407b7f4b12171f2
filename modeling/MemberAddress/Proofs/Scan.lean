import MemberAddress.Picker.Scan
import MemberAddress.Proofs.Logged
import Mathlib.Tactic

/-!
# What a scan finds

The scan is a loop that stops early. Seen from outside it is a search in a list: `Scan.reach` are
the addresses that it may look at, `Scan.qualified` the candidates among them, and the outcome is
the first candidate of the preferred version or else the last one (`overInterfaces_eq`).
-/

namespace MemberAddress.Scan

variable {s : Settings} {pool : List PoolEntry}

/-! ### Candidates -/

/-- A candidate is a candidate for the address that was looked at. -/
theorem inet_of_candidate? {x : Inet} {c : Candidate} (h : candidate? pool x = some c) :
    c.inet = x := by
  unfold candidate? at h
  split_ifs at h with hp hl
  · cases h; rfl
  · obtain ⟨e, -, rfl⟩ := Option.map_eq_some_iff.1 h
    rfl

/-- A candidate from a pool carries the hostname of an entry that selects it. -/
theorem exists_entry_of_candidate? {x : Inet} {c : Candidate} (hp : pool ≠ [])
    (h : candidate? pool x = some c) :
    ∃ e ∈ pool, Pattern.selects e.address x = true ∧ c.host = e.host := by
  rw [candidate?, if_neg hp] at h
  obtain ⟨e, he, rfl⟩ := Option.map_eq_some_iff.1 h
  exact ⟨e, List.mem_of_find?_eq_some he, by simpa using List.find?_some he, rfl⟩

/-- Every address that an entry selects is a candidate. -/
theorem candidate?_isSome {x : Inet} {e : PoolEntry} (he : e ∈ pool)
    (hx : Pattern.selects e.address x = true) : (candidate? pool x).isSome := by
  rw [candidate?, if_neg (List.ne_nil_of_mem he), Option.isSome_map, List.find?_isSome]
  exact ⟨e, he, hx⟩

/-- When addresses of groups are ruled out, only those of four octets may be picked. -/
theorem version_of_isAdmitted {x : Inet} (h4 : s.preferIPv4Stack = true)
    (h : isAdmitted s x = true) : x.version = .v4 := by
  cases hv : x.version with
  | v4 => rfl
  | v6 => simp [isAdmitted, h4, hv] at h

/-! ### The scan as a search -/

/-- The candidates among several addresses, those left out that may not be picked at all. -/
def qualified (s : Settings) (pool : List PoolEntry) (xs : List Inet) : List Candidate :=
  (xs.filter (isAdmitted s)).filterMap (candidate? pool)

/-- The addresses that a scan may look at: with an empty pool, only those of interfaces that are
not skipped. -/
def reach (pool : List PoolEntry) (interfaces : List Interface) : List Inet :=
  (interfaces.filter fun i => !(pool.isEmpty && i.isSkipped)).flatMap Interface.addresses

/-- The first candidate of the preferred version, or else the last candidate, or else `last`. -/
def choose (s : Settings) (last : Option Candidate) (cs : List Candidate) : Option Candidate :=
  match cs.find? fun c => isPreferred s c.inet with
  | some c => some c
  | none => cs.getLast?.or last

theorem qualified_cons (x : Inet) (xs : List Inet) :
    qualified s pool (x :: xs) =
      if isAdmitted s x then (candidate? pool x).toList ++ qualified s pool xs
      else qualified s pool xs := by
  unfold qualified
  by_cases ha : isAdmitted s x
  · rw [List.filter_cons_of_pos ha, List.filterMap_cons, if_pos ha]
    cases candidate? pool x <;> rfl
  · rw [List.filter_cons_of_neg ha, if_neg ha]

theorem qualified_append (xs ys : List Inet) :
    qualified s pool (xs ++ ys) = qualified s pool xs ++ qualified s pool ys := by
  simp [qualified, List.filter_append, List.filterMap_append]

theorem mem_qualified {xs : List Inet} {c : Candidate} :
    c ∈ qualified s pool xs ↔ ∃ x ∈ xs, isAdmitted s x = true ∧ candidate? pool x = some c := by
  simp [qualified, and_assoc]

/-- The scan over addresses ends at the first candidate of the preferred version, and otherwise
goes on with the last candidate. -/
theorem overAddresses_eq (last : Option Candidate) (xs : List Inet) :
    overAddresses s pool last xs =
      match (qualified s pool xs).find? fun c => isPreferred s c.inet with
      | some c => .done c
      | none => .going ((qualified s pool xs).getLast?.or last) := by
  induction xs generalizing last with
  | nil => simp [overAddresses, qualified]
  | cons x xs ih =>
    rw [qualified_cons, overAddresses, overAddress]
    by_cases ha : isAdmitted s x
    · rw [if_pos ha, if_pos ha]
      cases hc : candidate? pool x with
      | none => simp [ih]
      | some c =>
        have hx : c.inet = x := inet_of_candidate? hc
        by_cases hp : isPreferred s x
        · simp [hp, hx]
        · -- a candidate of the other version is kept until a later one takes its place
          simp only [hp, if_false, Bool.false_eq_true, ih, Option.toList_some,
            List.singleton_append, List.find?_cons, hx, List.getLast?_cons]
          cases (qualified s pool xs).getLast? <;> rfl
    · rw [if_neg ha, if_neg ha]
      exact ih last

/-- The outcome of a scan is chosen among the candidates that it may reach. -/
theorem overInterfaces_eq (last : Option Candidate) (interfaces : List Interface) :
    (overInterfaces s pool last interfaces).2 =
      choose s last (qualified s pool (reach pool interfaces)) := by
  -- every interface hands its last candidate on, so `last` changes along the list
  induction interfaces generalizing last with
  | nil => simp [overInterfaces, reach, qualified, choose]
  | cons i rest ih =>
    rw [overInterfaces]
    by_cases hi : (pool.isEmpty && i.isSkipped) = true
    · rw [if_pos hi, ih, reach, reach, List.filter_cons_of_neg (by simp [hi])]
    · have hr : reach pool (i :: rest) = i.addresses ++ reach pool rest := by
        rw [reach, List.filter_cons_of_pos (by rwa [Bool.not_eq_true', ← Bool.not_eq_true]),
        List.flatMap_cons, reach]
      rw [if_neg hi, hr, qualified_append, overAddresses_eq, choose, List.find?_append]
      cases hf : (qualified s pool i.addresses).find? fun c => isPreferred s c.inet with
      | some c => simp
      | none =>
        simp only [ih, choose, Option.none_or, List.getLast?_append]
        cases (qualified s pool (reach pool rest)).find? fun c => isPreferred s c.inet with
        | some c => rfl
        | none => rw [Option.or_assoc]

/-! ### The outcome -/

theorem choose_eq (cs : List Candidate) :
    choose s none cs = (cs.find? fun c => isPreferred s c.inet).or cs.getLast? := by
  unfold choose
  cases cs.find? fun c => isPreferred s c.inet with
  | some c => rfl
  | none => simp

/-- Candidates that are made from other data are chosen by their addresses. -/
theorem choose_map {α : Type} (f : α → Candidate) (xs : List α) :
    choose s none (xs.map f) =
      ((xs.find? fun x => isPreferred s (f x).inet).or xs.getLast?).map f := by
  rw [choose_eq, List.find?_map, List.getLast?_map, Option.map_or]
  rfl

theorem mem_of_choose {cs : List Candidate} {c : Candidate} (h : choose s none cs = some c) :
    c ∈ cs := by
  unfold choose at h
  split at h
  · next d hd =>
    cases h
    exact List.mem_of_find?_eq_some hd
  · rw [Option.or_none] at h
    exact List.mem_of_getLast? h

theorem choose_isSome {cs : List Candidate} (h : cs ≠ []) : (choose s none cs).isSome := by
  unfold choose
  split
  · rfl
  · rw [Option.or_none, List.getLast?_isSome]
    exact h

/-- A scan fails only when the interfaces cannot be listed. -/
theorem pick_error_iff {listing : Listing} {f : Fault} :
    (pick s pool listing).result = .error f ↔ listing.enumerate.result = .error f := by
  rw [pick, Logged.bind_error_iff]
  simp

/-- The candidate that a scan of listed interfaces gives. -/
theorem pick_ok_iff {listing : Listing} {found : Option Candidate} :
    (pick s pool listing).result = .ok found ↔
      ∃ interfaces, listing.answer = .ok interfaces ∧
        found = choose s none (qualified s pool (reach pool interfaces)) := by
  simp only [pick, Logged.bind_ok_iff, Listing.enumerate, overInterfaces_eq, Except.ok.injEq]
  cases listing.answer with
  | error e => simp [Except.mapError]
  | ok interfaces => simp [Except.mapError, eq_comm]

/-- What a scan picks is an address that the host lists and that may be picked. -/
theorem exists_listed_of_pick {listing : Listing} {c : Candidate}
    (h : (pick s pool listing).result = .ok (some c)) :
    ∃ interfaces, listing.answer = .ok interfaces ∧ c.inet ∈ reach pool interfaces ∧
      isAdmitted s c.inet = true ∧ candidate? pool c.inet = some c := by
  obtain ⟨interfaces, hi, hc⟩ := pick_ok_iff.1 h
  obtain ⟨x, hx, ha, hxc⟩ := mem_qualified.1 (mem_of_choose hc.symm)
  obtain rfl := inet_of_candidate? hxc
  exact ⟨interfaces, hi, hx, ha, hxc⟩

/-- With a pool, a scan finds something as soon as some entry selects an address of any interface
that may be picked. -/
theorem pick_isSome {listing : Listing} {interfaces : List Interface} {e : PoolEntry} {x : Inet}
    (hl : listing.answer = .ok interfaces) (he : e ∈ pool)
    (hx : ∃ i ∈ interfaces, x ∈ i.addresses) (ha : isAdmitted s x = true)
    (hs : Pattern.selects e.address x = true) :
    ∃ c, (pick s pool listing).result = .ok (some c) := by
  obtain ⟨i, hi, hxi⟩ := hx
  have hreach : x ∈ reach pool interfaces := by
    have hp : pool.isEmpty = false := by
      rw [List.isEmpty_eq_false_iff]
      exact List.ne_nil_of_mem he
    simp only [reach, hp, Bool.false_and, Bool.not_false, List.filter_true, List.mem_flatMap]
    exact ⟨i, hi, hxi⟩
  obtain ⟨c, hc⟩ := Option.isSome_iff_exists.1 (candidate?_isSome he hs)
  have hmem : c ∈ qualified s pool (reach pool interfaces) := mem_qualified.2 ⟨x, hreach, ha, hc⟩
  obtain ⟨d, hd⟩ := Option.isSome_iff_exists.1 (choose_isSome (s := s) (List.ne_nil_of_mem hmem))
  exact ⟨d, pick_ok_iff.2 ⟨interfaces, hl, hd.symm⟩⟩

end MemberAddress.Scan
