import MemberAddress.Proofs.Forced

/-!
# The zone of a listed address

A local address without a zone gets its zone from the interfaces that list its bits. The search for
it counts entries and not interfaces: an address that one interface lists twice is refused like one
that two interfaces list.

* `Listing.finds` are the entries with the bits of an address, `Listing.carriers` the interfaces
  that have such an entry;
* `Listing.result_fixZone` says what fixing comes to for any entries, by the two inductions
  `Listing.findZoned_some` and `Listing.findZoned_none` over the walk;
* `Listing.FixesExactly` is what fixing ought to do, told by interfaces, and
  `Listing.fixesExactly_iff` says for which listings it does.
-/

namespace MemberAddress

/-- A text that can be a zone: it is not empty and has neither a percent sign nor a slash. -/
def Zone.IsText (t : Text) : Prop := t ≠ [] ∧ '%' ∉ t ∧ '/' ∉ t

/-- The listed addresses of an interface that have the bits of `x`. -/
def Interface.entries (x : Inet) (i : Interface) : List Inet :=
  i.addresses.filter fun y => Listing.sameBits y x

/-- A text is the zone that an interface gives to `x`: one that `x` is listed with there, or the
name of the interface where `x` is listed without a zone. -/
def Interface.GivesZone (i : Interface) (x : Inet) (zone : Text) : Prop :=
  ∃ y ∈ i.entries x, zone = (y.zone.map Zone.text).getD i.name

namespace Listing

variable {l : Listing} {interfaces : List Interface} {x y z : Inet} {f : Fault} {name : Text}

/-- The interfaces that list the bits of `x`. -/
def carriers (x : Inet) (interfaces : List Interface) : List Interface :=
  interfaces.filter fun i => !(i.entries x).isEmpty

/-- The listed addresses with the bits of `x`, each with the name of its interface. -/
def finds (x : Inet) (interfaces : List Interface) : List (Text × Inet) :=
  interfaces.flatMap fun i => (i.entries x).map fun y => (i.name, y)

/-! ### Entries and interfaces -/

theorem finds_cons (x : Inet) (i : Interface) (rest : List Interface) :
    finds x (i :: rest) = (i.entries x).map (fun y => (i.name, y)) ++ finds x rest := rfl

/-- The walk over all interfaces meets the entries of each with its name. -/
theorem filter_walk (x : Inet) (interfaces : List Interface) :
    ((walk false interfaces).2.filter fun p => sameBits p.2 x) = finds x interfaces := by
  induction interfaces with
  | nil => rfl
  | cons i rest ih =>
    have hwalk : (walk false (i :: rest)).2 =
        i.addresses.map (fun y => (i.name, y)) ++ (walk false rest).2 := rfl
    rw [hwalk, List.filter_append, ih, finds_cons, List.filter_map]
    rfl

theorem finds_eq_nil_iff : finds x interfaces = [] ↔ carriers x interfaces = [] := by
  simp [finds, carriers, List.flatMap_eq_nil_iff, List.filter_eq_nil_iff]

/-- The entries are those of the interfaces that have one. -/
theorem finds_carriers (x : Inet) (interfaces : List Interface) :
    finds x (carriers x interfaces) = finds x interfaces := by
  induction interfaces with
  | nil => rfl
  | cons i rest ih =>
    by_cases h : i.entries x = []
    · have hdrop : carriers x (i :: rest) = carriers x rest :=
        List.filter_cons_of_neg (by simp [h])
      rw [hdrop, ih, finds_cons, h]
      rfl
    · have hkeep : carriers x (i :: rest) = i :: carriers x rest :=
        List.filter_cons_of_pos (by simp [h])
      rw [hkeep, finds_cons, finds_cons, ih]

/-- When one interface alone lists the bits, the entries are its own. -/
theorem finds_of_carriers {i : Interface} (h : carriers x interfaces = [i]) :
    finds x interfaces = (i.entries x).map fun y => (i.name, y) := by
  rw [← finds_carriers, h, finds_cons]
  exact List.append_nil _

/-- There are at least as many entries as interfaces that have one. -/
theorem length_carriers_le (x : Inet) (interfaces : List Interface) :
    (carriers x interfaces).length ≤ (finds x interfaces).length := by
  have hone : ∀ i ∈ carriers x interfaces, 1 ≤ (i.entries x).length := by
    intro i hi
    have hne : i.entries x ≠ [] := by simpa using (List.mem_filter.1 hi).2
    exact List.length_pos_iff.2 hne
  have hsum : (finds x interfaces).length =
      ((carriers x interfaces).map fun i => (i.entries x).length).sum := by
    rw [← finds_carriers, finds, List.length_flatMap]
    simp only [List.length_map]
  rw [hsum, ← List.length_map (fun i : Interface => (i.entries x).length)]
  refine List.length_le_sum_of_one_le _ fun n hn => ?_
  obtain ⟨i, hi, rfl⟩ := List.mem_map.1 hn
  exact hone i hi

/-! ### What fixing comes to -/

/-- After a find, the search goes on only to refuse a second one. -/
theorem findZoned_some (x z : Inet) (pairs : List (Text × Inet)) :
    findZoned x (some z) pairs =
      if pairs.filter (fun p => sameBits p.2 x) = [] then .ok (some z)
      else .error (.ambiguousZone x) := by
  induction pairs with
  | nil => rfl
  | cons pair rest ih =>
    obtain ⟨name, y⟩ := pair
    by_cases h : sameBits y x = true
    · rw [List.filter_cons_of_pos (p := fun p : Text × Inet => sameBits p.2 x) h,
        if_neg (List.cons_ne_nil _ _), findZoned, if_pos h]
    · rw [List.filter_cons_of_neg (p := fun p : Text × Inet => sameBits p.2 x) h, findZoned,
        if_neg h, ih]

/-- The first find gets its zone, and must be the only one. -/
def zonedAlone (x : Inet) : List (Text × Inet) → Except Fault (Option Inet)
  | [] => .ok none
  | (name, y) :: more =>
    match zoned name y with
    | .error f => .error f
    | .ok z => if more = [] then .ok (some z) else .error (.ambiguousZone x)

theorem findZoned_none (x : Inet) (pairs : List (Text × Inet)) :
    findZoned x none pairs = zonedAlone x (pairs.filter fun p => sameBits p.2 x) := by
  induction pairs with
  | nil => rfl
  | cons pair rest ih =>
    obtain ⟨name, y⟩ := pair
    by_cases h : sameBits y x = true
    · rw [List.filter_cons_of_pos (p := fun p : Text × Inet => sameBits p.2 x) h, findZoned,
        if_pos h, zonedAlone]
      cases hz : zoned name y with
      | error f => rfl
      | ok z => exact findZoned_some x z rest
    · rw [List.filter_cons_of_neg (p := fun p : Text × Inet => sameBits p.2 x) h, findZoned,
        if_neg h, ih]

/-- Fixing a local address without a zone comes down to the listed entries with its bits. -/
theorem result_fixZone (hl : l.answer = .ok interfaces) (hx : needsZone x = true) :
    (l.fixZone x).result = (zonedAlone x (finds x interfaces)).map fun found => found.getD x := by
  have hlist : l.enumerate.result = .ok interfaces := by
    rw [enumerate, hl]
    rfl
  rw [fixZone, if_pos hx, Logged.result_bind, hlist]
  show (Logged.lift (findZoned x none (walk false interfaces).2) >>= fun found =>
    (pure (found.getD x) : Logged Inet)).result = _
  rw [findZoned_none, filter_walk, Logged.result_bind, Logged.result_lift]
  cases zonedAlone x (finds x interfaces) <;> rfl

/-- Only an address of groups needs a zone, and only one without a zone. -/
theorem exists_bits_of_needsZone (hx : needsZone x = true) : ∃ bits, x = .v6 bits none := by
  cases x with
  | v4 bits => cases hx
  | v6 bits zone =>
    cases zone with
    | none => exact ⟨bits, rfl⟩
    | some zone => simp [needsZone, Inet.zone] at hx

/-- An address with a zone needs none. -/
theorem needsZone_of_zone {zone : Zone} (h : x.zone = some zone) : needsZone x = false := by
  rw [needsZone, h]
  exact Bool.and_false _

/-- An entry can be zoned: it has a zone, or the name of its interface can be one. -/
def CanBeZoned (entry : Text × Inet) : Prop := entry.2.zone = none → Zone.IsText entry.1

/-- An entry that can be zoned gets its own zone or the name of its interface. -/
theorem zoned_of_canBeZoned {bits : BitVec 128} {zone : Option Zone}
    (h : CanBeZoned (name, .v6 bits zone)) :
    ∃ zone', zoned name (.v6 bits zone) = .ok (.v6 bits (some zone')) ∧
      zone'.text = (zone.map Zone.text).getD name := by
  cases zone with
  | some zone => exact ⟨zone, rfl, rfl⟩
  | none =>
    obtain ⟨hne, hpercent, hslash⟩ := h rfl
    have hread : Zone.ofText? name = some ⟨name, hne, hpercent, hslash⟩ :=
      dif_pos ⟨hne, hpercent, hslash⟩
    refine ⟨⟨name, hne, hpercent, hslash⟩, ?_, rfl⟩
    rw [zoned, hread]

theorem zoned_of_not_canBeZoned {bits : BitVec 128} {zone : Option Zone}
    (h : ¬ CanBeZoned (name, .v6 bits zone)) :
    ∃ t, zoned name (.v6 bits zone) = .error (.badZone t) := by
  obtain ⟨hnone, hname⟩ := Classical.not_imp.1 h
  obtain rfl : zone = none := hnone
  have hread : Zone.ofText? name = none := dif_neg hname
  exact ⟨_, by rw [zoned, hread]⟩

/-- The four ways in which fixing a local address without a zone can end. -/
theorem fixZone_cases (hl : l.answer = .ok interfaces) (hx : needsZone x = true) :
    (finds x interfaces = [] ∧ (l.fixZone x).result = .ok x) ∨
    (∃ first more t, finds x interfaces = first :: more ∧ ¬ CanBeZoned first ∧
      (l.fixZone x).result = .error (.badZone t)) ∨
    (∃ first y zone, finds x interfaces = [first] ∧ CanBeZoned first ∧
      (l.fixZone x).result = .ok y ∧ y.bare = x.bare ∧ y.zone = some zone ∧
      zone.text = (first.2.zone.map Zone.text).getD first.1) ∨
    (∃ first second more, finds x interfaces = first :: second :: more ∧ CanBeZoned first ∧
      (l.fixZone x).result = .error (.ambiguousZone x)) := by
  rw [result_fixZone hl hx]
  obtain ⟨bits, rfl⟩ := exists_bits_of_needsZone hx
  have hbits : ∀ p ∈ finds (.v6 bits none) interfaces, ∃ zone, p.2 = .v6 bits zone := by
    intro p hp
    obtain ⟨i, -, hp⟩ := List.mem_flatMap.1 hp
    obtain ⟨y, hy, rfl⟩ := List.mem_map.1 hp
    have hb : y.bare = .v6 bits none := bare_of_sameBits (List.mem_filter.1 hy).2
    cases y with
    | v4 bits' => cases hb
    | v6 bits' zone =>
      cases hb
      exact ⟨zone, rfl⟩
  match hfinds : finds (.v6 bits none) interfaces with
  | [] => exact .inl ⟨rfl, rfl⟩
  | (name, y) :: more =>
    obtain ⟨zone, hy⟩ := hbits (name, y) (by simp [hfinds])
    obtain rfl : y = .v6 bits zone := hy
    rw [zonedAlone]
    by_cases hc : CanBeZoned (name, .v6 bits zone)
    · obtain ⟨zone', hz, htext⟩ := zoned_of_canBeZoned hc
      rw [hz]
      match more with
      | [] =>
        exact .inr (.inr (.inl
          ⟨_, .v6 bits (some zone'), zone', rfl, hc, rfl, rfl, rfl, htext⟩))
      | second :: more => exact .inr (.inr (.inr ⟨_, second, more, rfl, hc, rfl⟩))
    · obtain ⟨t, ht⟩ := zoned_of_not_canBeZoned hc
      rw [ht]
      exact .inr (.inl ⟨_, more, t, rfl, hc, rfl⟩)

/-! ### Exact fixing -/

/-- What fixing ought to do. A local address without a zone is refused just when two interfaces or
more list its bits; it gets a zone that the one interface gives that lists them; and it stays as it
is when none does. For any other address the interfaces are not asked, and what was fixed stays as
it is. -/
structure FixesExactly (l : Listing) (interfaces : List Interface) (x : Inet) : Prop where
  refused : needsZone x = true →
    ((∃ f, (l.fixZone x).result = .error f ∧ f.errorClass? = some .illegalArgument) ↔
      2 ≤ (carriers x interfaces).length)
  zoned : needsZone x = true → ∀ i, carriers x interfaces = [i] →
    ∃ y zone, (l.fixZone x).result = .ok y ∧ y.bare = x.bare ∧ y.zone = some zone ∧
      i.GivesZone x zone.text
  unlisted : needsZone x = true → carriers x interfaces = [] → (l.fixZone x).result = .ok x
  unasked : needsZone x = false → ∀ other : Listing, other.fixZone x = pure x
  settled : ∀ y, (l.fixZone x).result = .ok y → (l.fixZone y).result = .ok y

/-- What was fixed needs no fixing, whatever the listing is. -/
theorem fixZone_of_fixed (hl : l.answer = .ok interfaces) (h : (l.fixZone x).result = .ok y) :
    (l.fixZone y).result = .ok y := by
  by_cases hx : needsZone x = true
  · rcases fixZone_cases hl hx with ⟨-, hr⟩ | ⟨_, _, _, -, -, hr⟩ |
      ⟨_, y', zone, -, -, hr, -, hzone, -⟩ | ⟨_, _, _, -, -, hr⟩
    · obtain rfl : x = y := Except.ok.inj (hr.symm.trans h)
      exact h
    · cases hr.symm.trans h
    · obtain rfl : y' = y := Except.ok.inj (hr.symm.trans h)
      rw [fixZone_of_not_needsZone l (needsZone_of_zone hzone)]
      rfl
    · cases hr.symm.trans h
  · have hpure := fixZone_of_not_needsZone l (Bool.not_eq_true _ ▸ hx)
    rw [hpure] at h
    cases h
    rw [hpure]
    rfl

/-- The zones of all entries are given by the interface that alone lists the bits of `x`. -/
theorem givesZone_of_carriers {i : Interface} {entry : Text × Inet}
    (h : carriers x interfaces = [i]) (hm : entry ∈ finds x interfaces) :
    i.GivesZone x ((entry.2.zone.map Zone.text).getD entry.1) := by
  rw [finds_of_carriers h] at hm
  obtain ⟨y, hy, rfl⟩ := List.mem_map.1 hm
  exact ⟨y, hy, rfl⟩

/-- The first entry with the bits of `x`, if there is one, can be zoned. -/
def FirstCanBeZoned (x : Inet) (interfaces : List Interface) : Prop :=
  ∀ first ∈ (finds x interfaces).head?, CanBeZoned first

/-- A local address without a zone is refused as ambiguous exactly when two entries or more have its
bits, on whatever interfaces they are, and the first of them can be zoned. -/
theorem fixZone_ambiguous_iff (hl : l.answer = .ok interfaces) (hx : needsZone x = true) :
    (l.fixZone x).result = .error (.ambiguousZone x) ↔
      FirstCanBeZoned x interfaces ∧ 2 ≤ (finds x interfaces).length := by
  rcases fixZone_cases hl hx with ⟨hf, hr⟩ | ⟨first, more, t, hf, hc, hr⟩ |
    ⟨first, y, zone, hf, hc, hr, -⟩ | ⟨first, second, more, hf, hc, hr⟩
  · simp [hf, hr]
  · simp [hf, hr, FirstCanBeZoned, hc]
  · simp [hf, hr]
  · simp [hf, hr, FirstCanBeZoned, hc]

/-- Fixing is exact when the first entry can be zoned and no interface alone has several entries. -/
theorem fixesExactly_of_finds (hl : l.answer = .ok interfaces)
    (h : needsZone x = true → FirstCanBeZoned x interfaces ∧
      (2 ≤ (finds x interfaces).length → 2 ≤ (carriers x interfaces).length)) :
    l.FixesExactly interfaces x where
  refused hx := by
    obtain ⟨hfirst, hseveral⟩ := h hx
    have hle := length_carriers_le x interfaces
    rcases fixZone_cases hl hx with ⟨hf, hr⟩ | ⟨first, more, t, hf, hc, hr⟩ |
      ⟨first, y, zone, hf, -, hr, -⟩ | ⟨first, second, more, hf, -, hr⟩
    · simp only [hf, List.length_nil] at hle
      exact iff_of_false (fun ⟨f, he, _⟩ => by cases hr.symm.trans he) (by omega)
    · exact absurd (hfirst first (by simp [hf])) hc
    · simp only [hf, List.length_singleton] at hle
      exact iff_of_false (fun ⟨f, he, _⟩ => by cases hr.symm.trans he) (by omega)
    · exact iff_of_true ⟨_, hr, rfl⟩ (hseveral (by simp [hf]))
  zoned hx i hi := by
    obtain ⟨hfirst, hseveral⟩ := h hx
    rw [hi] at hseveral
    rcases fixZone_cases hl hx with ⟨hf, -⟩ | ⟨first, more, t, hf, hc, -⟩ |
      ⟨first, y, zone, hf, -, hr, hbits, hzone, htext⟩ | ⟨first, second, more, hf, -, -⟩
    · rw [finds_eq_nil_iff, hi] at hf
      cases hf
    · exact absurd (hfirst first (by simp [hf])) hc
    · exact ⟨y, zone, hr, hbits, hzone, htext ▸ givesZone_of_carriers hi (by simp [hf])⟩
    · simp [hf] at hseveral
  unlisted hx hnone := by
    rw [result_fixZone hl hx, finds_eq_nil_iff.2 hnone]
    rfl
  unasked hx other := fixZone_of_not_needsZone other hx
  settled _ hy := fixZone_of_fixed hl hy

/-- Fixing is exact for a listing just when the first entry with the bits of the address can be
zoned and no interface alone has several such entries. Whether it is or not, an address is refused
exactly when two entries or more have its bits and the first of them can be zoned. -/
theorem fixesExactly_iff (hl : l.answer = .ok interfaces) (x : Inet) :
    (l.FixesExactly interfaces x ↔
      (needsZone x = true → FirstCanBeZoned x interfaces ∧
        (2 ≤ (finds x interfaces).length → 2 ≤ (carriers x interfaces).length))) ∧
    (needsZone x = true →
      ((l.fixZone x).result = .error (.ambiguousZone x) ↔
        FirstCanBeZoned x interfaces ∧ 2 ≤ (finds x interfaces).length)) := by
  refine ⟨⟨fun h hx => ?_, fixesExactly_of_finds hl⟩, fixZone_ambiguous_iff hl⟩
  have hexact := h.refused hx
  rcases fixZone_cases hl hx with ⟨hf, -⟩ | ⟨first, more, t, hf, hc, hr⟩ |
    ⟨first, y, zone, hf, hc, -⟩ | ⟨first, second, more, hf, hc, hr⟩
  · simp [FirstCanBeZoned, hf]
  · -- a name that can be no zone is refused in a way of its own, by two interfaces and by one
    match hcarriers : carriers x interfaces with
    | [] => simp [finds_eq_nil_iff.2 hcarriers] at hf
    | [i] =>
      obtain ⟨y, zone, hok, -⟩ := h.zoned hx i hcarriers
      cases hr.symm.trans hok
    | i :: j :: others =>
      obtain ⟨f, he, hclass⟩ := hexact.2 (by simp [hcarriers])
      cases hr.symm.trans he
      cases hclass
  · simp [FirstCanBeZoned, hf, hc]
  · exact ⟨by simp [FirstCanBeZoned, hf, hc], fun _ => hexact.1 ⟨_, hr, rfl⟩⟩

/-- The listing of the given interfaces. -/
def ofInterfaces (interfaces : List Interface) : Listing := ⟨[], .ok interfaces⟩

/-- The address `fe80::1`, without a zone. -/
def localOne : Inet := .v6 0xfe800000000000000000000000000001 none

/-- The same address in the zone `eth0`. -/
def localOneZoned : Inet :=
  .v6 0xfe800000000000000000000000000001
    (some ⟨"eth0".toList, by decide, by decide, by decide⟩)

/-- The zone `eth0` is found for an address that one interface lists once, next to other addresses,
and an address that two interfaces list is refused: both is exact. -/
theorem fixesExactly_iff_once :
    let one : List Interface := [.up "eth0".toList [.v4 0x0a000001, localOne], .up "eth1".toList []]
    let two : List Interface := [.up "eth0".toList [localOne], .up "eth1".toList [localOne]]
    (ofInterfaces one).FixesExactly one localOne ∧
      (ofInterfaces two).FixesExactly two localOne := by
  intro one two
  have hname : Zone.IsText "eth0".toList := ⟨by decide, by decide, by decide⟩
  refine ⟨(fixesExactly_iff rfl _).1.2 fun _ => ⟨?_, by decide⟩,
    (fixesExactly_iff rfl _).1.2 fun _ => ⟨?_, by decide⟩⟩
  · rintro first ⟨⟩ -
    exact hname
  · rintro first ⟨⟩ -
    exact hname

/-- An address that one interface lists twice, with its zone and without, is refused, although no
other interface lists it. -/
theorem not_fixesExactly_twice :
    ¬ (ofInterfaces [.up "eth0".toList [localOne, localOneZoned]]).FixesExactly
      [.up "eth0".toList [localOne, localOneZoned]] localOne := by
  intro h
  have hx : needsZone localOne = true := by decide
  have hrefused : ((ofInterfaces [.up "eth0".toList [localOne, localOneZoned]]).fixZone
      localOne).result = .error (.ambiguousZone localOne) := by
    refine (fixZone_ambiguous_iff rfl hx).2 ⟨?_, by decide⟩
    rintro first ⟨⟩ -
    exact ⟨by decide, by decide, by decide⟩
  have htwo := (h.refused hx).1 ⟨_, hrefused, rfl⟩
  exact absurd htwo (by decide)

end Listing

end MemberAddress
