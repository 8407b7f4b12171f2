import MemberAddress.Proofs.ShownHost

/-!
# A forced address

A forced address decides alone what is bound to. The settings about interfaces and members are not
read, and the interfaces are listed only to find the zone of a local address that has none.

* `NameService.Denotes` says which addresses a text stands for, and `NameService.resolveOne_ok_iff`
  that the first of them is taken;
* `Choice.bind_forced_ok_iff` says exactly which candidate a forced address gives;
* `Choice.bind_forced` compares two choices with the same forced address and all else different.
-/

namespace MemberAddress

/-! ### What a text stands for -/

namespace NameService

variable {names : NameService} {t first : Text} {rest : List Text} {x : Inet}

/-- A text stands for the address that is written in it, or, if there is none, for each address that
the name service answers. -/
def Denotes (names : NameService) (t : Text) (x : Inet) : Prop :=
  Inet.read? t = some x ∨
    Inet.read? t = none ∧ ∃ answers, names t = .ok answers ∧ ∃ a ∈ answers, Inet.read? a = some x

/-- The first address that a text stands for: the one that is written in it, or, if there is none,
the first that the name service answers. -/
inductive DenotesFirst (names : NameService) (t : Text) : Inet → Prop
  | written {x : Inet} : Inet.read? t = some x → DenotesFirst names t x
  | answered {x : Inet} {first : Text} {rest : List Text} : Inet.read? t = none →
      names t = .ok (first :: rest) → Inet.read? first = some x → DenotesFirst names t x

/-- Answers that are repeated are taken out behind the first one. -/
theorem exists_resolve_of_cons (h : names t = .ok (first :: rest)) :
    ∃ more, (names.resolve t).result = .ok (first :: more) := by
  refine ⟨(rest.filter fun a => !a == first).eraseDups, ?_⟩
  unfold resolve
  rw [h]
  simp only [List.eraseDups_cons]

/-- A hostname that is resolved has a first answer. -/
theorem exists_cons_of_resolve {addresses : List Text}
    (h : (names.resolve t).result = .ok addresses) :
    ∃ first rest, names t = .ok (first :: rest) := by
  cases hn : names t with
  | error e =>
    unfold resolve at h
    rw [hn] at h
    cases h
  | ok answers =>
    cases answers with
    | nil =>
      unfold resolve at h
      rw [hn] at h
      cases h
    | cons first rest => exact ⟨first, rest, rfl⟩

/-- What is taken for a text is the first address that it stands for. -/
theorem resolveOne_ok_iff : (names.resolveOne t).result = .ok x ↔ names.DenotesFirst t x := by
  constructor
  · intro h
    unfold resolveOne at h
    cases hr : Inet.read? t with
    | some y =>
      rw [hr] at h
      cases h
      exact .written hr
    | none =>
      rw [hr] at h
      obtain ⟨addresses, ha, h⟩ := Logged.bind_ok_iff.1 h
      obtain ⟨first, rest, hn⟩ := exists_cons_of_resolve ha
      obtain ⟨more, hmore⟩ := exists_resolve_of_cons hn
      obtain rfl : addresses = first :: more := Except.ok.inj (ha.symm.trans hmore)
      rw [List.headD_cons] at h
      cases hf : Inet.read? first with
      | some y =>
        rw [hf] at h
        cases h
        exact .answered hr hn hf
      | none =>
        rw [hf] at h
        cases h
  · rintro (hr | ⟨hr, hn, hf⟩)
    · rw [resolveOne, hr]
      rfl
    · obtain ⟨more, hmore⟩ := exists_resolve_of_cons hn
      rw [resolveOne, hr]
      exact Logged.bind_ok_iff.2 ⟨_, hmore, by rw [List.headD_cons, hf]; rfl⟩

theorem DenotesFirst.denotes (h : names.DenotesFirst t x) : names.Denotes t x := by
  rcases h with hr | ⟨hr, hn, hf⟩
  · exact .inl hr
  · exact .inr ⟨hr, _, hn, _, List.mem_cons_self, hf⟩

/-- The one address that is taken for a text is one that the text stands for. -/
theorem denotes_of_resolveOne (h : (names.resolveOne t).result = .ok x) : names.Denotes t x :=
  (resolveOne_ok_iff.1 h).denotes

end NameService

namespace Listing

variable {x : Inet}

/-- The interfaces are not asked about an address that needs no zone. -/
theorem fixZone_of_not_needsZone (l : Listing) (h : needsZone x = false) :
    l.fixZone x = pure x := by
  unfold fixZone
  rw [h]
  rfl

/-- Fixing the zone changes only an address that needs one. -/
theorem eq_or_bare_of_fixZone {l : Listing} {y : Inet} (h : (l.fixZone x).result = .ok y) :
    y = x ∨ needsZone x = true ∧ y.bare = x.bare := by
  cases hz : needsZone x with
  | false =>
    rw [fixZone_of_not_needsZone l hz] at h
    cases h
    exact .inl rfl
  | true => exact .inr ⟨rfl, bare_of_fixZone h⟩

end Listing

namespace Choice

variable {names : NameService} {s s₁ s₂ : Settings} {a : Text} {c d : Candidate} {l : Listing}

/-! ### The choice of a forced address -/

/-- With a forced address, the choice is that address with its zone fixed. -/
theorem bind_of_forced (hs : s.localAddress = some a) (l : Listing) :
    bind s ⟨names, l⟩ = (forced names a >>= fixZone l) := by
  unfold bind
  rw [hs]

theorem forced_ok_iff :
    (forced names a).result = .ok c ↔
      if a ∈ loopbackNames then c = .loopback
      else ∃ x, (names.resolveOne a).result = .ok x ∧ c = Candidate.of x (some a) 0 := by
  unfold forced
  by_cases ha : a ∈ loopbackNames
  · simp [ha, eq_comm]
  · rw [if_neg ha, if_neg (by simpa using ha), Logged.bind_ok_iff]
    constructor
    · rintro ⟨-, -, h⟩
      obtain ⟨x, hx, h⟩ := Logged.bind_ok_iff.1 h
      cases h
      exact ⟨x, hx, rfl⟩
    · rintro ⟨x, hx, rfl⟩
      exact ⟨(), rfl, Logged.bind_ok_iff.2 ⟨x, hx, rfl⟩⟩

/-- The zone of a candidate is fixed by fixing the zone of its address. -/
theorem fixZone_ok_iff :
    (fixZone l c).result = .ok d ↔
      ∃ x, (l.fixZone c.inet).result = .ok x ∧ d = if x = c.inet then c else c.withInet x := by
  rw [fixZone, Logged.bind_ok_iff]
  exact exists_congr fun x => and_congr_right fun _ => by
    rw [Logged.result_pure, Except.ok.injEq, eq_comm]

theorem fixZone_of_not_needsZone (l : Listing) (h : Listing.needsZone c.inet = false) :
    fixZone l c = pure c := by
  unfold fixZone
  rw [Listing.fixZone_of_not_needsZone l h]
  show (pure (if c.inet = c.inet then c else c.withInet c.inet) : Logged Candidate) = pure c
  rw [if_pos rfl]

/-- A forced address that needs no zone, however it is given, gives no candidate that needs one. -/
theorem not_needsZone_of_forced
    (hz : a ∈ loopbackNames ∨
      ∀ x, (names.resolveOne a).result = .ok x → Listing.needsZone x = false)
    (h : (forced names a).result = .ok c) : Listing.needsZone c.inet = false := by
  have hc := forced_ok_iff.1 h
  by_cases ha : a ∈ loopbackNames
  · rw [if_pos ha] at hc
    rw [hc]
    rfl
  · rw [if_neg ha] at hc
    obtain ⟨x, hx, rfl⟩ := hc
    exact (hz.resolve_left ha) x hx

/-- The candidate that a forced address gives: the loopback address for its names, and otherwise the
one address that is taken for the text, with its zone fixed. -/
theorem bind_forced_ok_iff (hs : s.localAddress = some a) :
    (bind s ⟨names, l⟩).result = .ok c ↔
      if a ∈ loopbackNames then c = .loopback
      else ∃ x y, (names.resolveOne a).result = .ok x ∧ (l.fixZone x).result = .ok y ∧
        c = Candidate.of y (some a) 0 := by
  rw [bind_of_forced hs, Logged.bind_ok_iff]
  by_cases ha : a ∈ loopbackNames
  · have hfixed : fixZone l .loopback = pure .loopback := fixZone_of_not_needsZone l rfl
    simp only [forced_ok_iff, if_pos ha, exists_eq_left, hfixed]
    rw [Logged.result_pure, Except.ok.injEq, eq_comm]
  · simp only [forced_ok_iff, if_neg ha, fixZone_ok_iff]
    -- moving a candidate to its own address changes nothing, and otherwise only the address counts
    have hmove (x y : Inet) :
        (if y = x then Candidate.of x (some a) 0 else (Candidate.of x (some a) 0).withInet y) =
          Candidate.of y (some a) 0 := by
      split
      · next h => rw [h]
      · rfl
    constructor
    · rintro ⟨_, ⟨x, hx, rfl⟩, y, hy, rfl⟩
      exact ⟨x, y, hx, hy, hmove x y⟩
    · rintro ⟨x, y, hx, hy, rfl⟩
      exact ⟨_, ⟨x, hx, rfl⟩, y, hy, (hmove x y).symm⟩

/-- Two choices with the same forced address and the same name service, whatever the other settings
are, give the same candidate or the same fault, with the same records, when the interfaces are
listed alike. If the address needs no zone, the interfaces may be listed in any two ways, or one
listing may fail. The names of the loopback address give that address; any other text gives an
address that it stands for, to which only a missing zone is added. -/
theorem bind_forced (names : NameService) (h₁ : s₁.localAddress = some a)
    (h₂ : s₂.localAddress = some a) :
    (∀ l, bind s₁ ⟨names, l⟩ = bind s₂ ⟨names, l⟩) ∧
    ((a ∈ loopbackNames ∨
        ∀ x, (names.resolveOne a).result = .ok x → Listing.needsZone x = false) →
      ∀ l₁ l₂, bind s₁ ⟨names, l₁⟩ = bind s₂ ⟨names, l₂⟩) ∧
    (a ∈ loopbackNames → ∀ l, (bind s₁ ⟨names, l⟩).result = .ok .loopback) ∧
    (a ∉ loopbackNames → ∀ l c, (bind s₁ ⟨names, l⟩).result = .ok c →
      ∃ x, names.Denotes a x ∧
        (c.inet = x ∨ Listing.needsZone x = true ∧ c.inet.bare = x.bare)) := by
  refine ⟨fun l => ?_, fun hz l₁ l₂ => ?_, fun ha l => ?_, fun ha l c hc => ?_⟩
  · rw [bind_of_forced h₁, bind_of_forced h₂]
  · rw [bind_of_forced h₁, bind_of_forced h₂]
    refine Logged.bind_congr fun c hc => ?_
    have hn := not_needsZone_of_forced hz hc
    rw [fixZone_of_not_needsZone l₁ hn, fixZone_of_not_needsZone l₂ hn]
  · exact (bind_forced_ok_iff h₁).2 (by rw [if_pos ha])
  · have hx := (bind_forced_ok_iff h₁).1 hc
    rw [if_neg ha] at hx
    obtain ⟨x, y, hr, hy, rfl⟩ := hx
    exact ⟨x, NameService.denotes_of_resolveOne hr, Listing.eq_or_bare_of_fixZone hy⟩

/-- Settings about interfaces that cannot be met, and settings about members that nobody resolves,
are alike next to the forced hostname `db`, and so are a failing and an empty listing. -/
theorem bind_forced_hostname :
    let names : NameService := .ofTable [("db".toList, ["10.2.2.2".toList])]
    let s₁ : Settings :=
      { Settings.ofLists ["10.9.*.*".toList] [] with localAddress := some "db".toList }
    let s₂ : Settings :=
      { Settings.ofLists [] ["nowhere".toList] with localAddress := some "db".toList }
    bind s₁ ⟨names, ⟨[], .error ⟨.system, "cannot list".toList⟩⟩⟩ = bind s₂ ⟨names, ⟨[], .ok []⟩⟩ ∧
      (bind s₁ ⟨names, ⟨[], .ok []⟩⟩).result =
        .ok (.of (.v4 0x0a020202) (some "db".toList) 0) := by
  intro names s₁ s₂
  obtain ⟨-, hlist, -, -⟩ := @bind_forced s₁ s₂ "db".toList names rfl rfl
  refine ⟨hlist (.inr fun x hx => ?_) _ _, Except.eq_ok_of_toOption (by decide +kernel)⟩
  have hresolved : (names.resolveOne "db".toList).result = .ok (.v4 0x0a020202) :=
    Except.eq_ok_of_toOption (by decide +kernel)
  rw [hresolved] at hx
  cases hx
  rfl

end Choice

end MemberAddress
