import MemberAddress.Picker.Pool
import MemberAddress.Proofs.Logged
import Mathlib.Tactic

/-!
# Where the addresses of the members come from

The map of the members' addresses is built by a loop over the entries of the member list. Its
invariant is `Origins.Traces`: every address in the map is traced to the hosts read so far, either
to a hostname that was resolved to it or to an entry that is itself an address or a pattern.

* `MemberList.HasHost` says that a host is named by a member list;
* `Origins.Traces.addHost` is one turn of the loop, `Origins.traces_ofMembers` the whole of it.
-/

namespace MemberAddress

/-- A host is named by some entry of a member list. -/
def MemberList.HasHost (members : List Value) (host : Text) : Prop :=
  ∃ entries, MemberList.split members = .ok entries ∧
    ∃ entry ∈ entries, ∃ parts, HostPort.split entry = .ok parts ∧ parts.host = host

namespace Origins

variable {names : NameService} {origins : Origins} {host a b : Text} {o : Option Text}

/-- The addresses of the map. -/
def keys (origins : Origins) : List Text := origins.map Prod.fst

@[simp] theorem keys_nil : keys [] = [] := rfl

@[simp] theorem keys_cons (p : Text × Option Text) :
    keys (p :: origins) = p.1 :: origins.keys := rfl

@[simp] theorem keys_concat (p : Text × Option Text) :
    keys (origins ++ [p]) = origins.keys ++ [p.1] := by
  simp [keys]

theorem mem_keys_of_mem (h : (a, o) ∈ origins) : a ∈ origins.keys := List.mem_map_of_mem h

theorem exists_mem_of_mem_keys (h : a ∈ origins.keys) : ∃ o, (a, o) ∈ origins := by
  obtain ⟨⟨a', o⟩, hm, rfl⟩ := List.mem_map.1 h
  exact ⟨o, hm⟩

theorem isSome_lookup_iff : (origins.lookup a).isSome = true ↔ a ∈ origins.keys := by
  rw [List.lookup_isSome_iff, keys, List.mem_map]
  constructor
  · rintro ⟨p, hp, he⟩
    exact ⟨p, hp, (beq_iff_eq.1 he).symm⟩
  · rintro ⟨p, hp, rfl⟩
    exact ⟨p, hp, beq_self_eq_true _⟩

theorem eq_of_mem_of_nodup {o' : Option Text} (hnd : origins.keys.Nodup) (h : (a, o) ∈ origins)
    (h' : (a, o') ∈ origins) : o = o' :=
  (Prod.ext_iff.1 (List.inj_on_of_nodup_map hnd h h' rfl)).2

/-! ### One address -/

theorem mem_addLiteral :
    (b, o) ∈ origins.addLiteral a ↔
      (b, o) ∈ origins ∨ a ∉ origins.keys ∧ b = a ∧ o = none := by
  unfold addLiteral
  by_cases h : a ∈ origins.keys
  · simp [isSome_lookup_iff.2 h, h]
  · simp [mt isSome_lookup_iff.1 h, h]

theorem nodup_keys_addLiteral (hnd : origins.keys.Nodup) : (origins.addLiteral a).keys.Nodup := by
  unfold addLiteral
  by_cases h : a ∈ origins.keys
  · rwa [if_pos (isSome_lookup_iff.2 h)]
  · rw [if_neg (mt isSome_lookup_iff.1 h), keys_concat, ← List.concat_eq_append]
    exact List.Nodup.concat h hnd

theorem keys_putHost :
    (putHost host origins a).keys = if a ∈ origins.keys then origins.keys
      else origins.keys ++ [a] := by
  induction origins with
  | nil => rfl
  | cons p rest ih =>
    obtain ⟨b, o⟩ := p
    by_cases hb : b = a
    · simp [putHost, hb]
    · have hab : ¬ a = b := fun e => hb e.symm
      simp only [putHost, hb, if_false, keys_cons, List.mem_cons, hab, false_or, ih]
      by_cases ha : a ∈ keys rest
      · rw [if_pos ha, if_pos ha]
      · rw [if_neg ha, if_neg ha, List.cons_append]

theorem nodup_keys_putHost (hnd : origins.keys.Nodup) : (putHost host origins a).keys.Nodup := by
  rw [keys_putHost]
  split
  · exact hnd
  · next h =>
    rw [← List.concat_eq_append]
    exact List.Nodup.concat h hnd

/-- Setting a hostname touches only its own address. -/
theorem mem_putHost (hnd : origins.keys.Nodup) :
    (b, o) ∈ putHost host origins a ↔ b = a ∧ o = some host ∨ b ≠ a ∧ (b, o) ∈ origins := by
  induction origins with
  | nil => simp [putHost]
  | cons p rest ih =>
    obtain ⟨c, o'⟩ := p
    obtain ⟨hc, hnd⟩ := List.nodup_cons.1 hnd
    by_cases hca : c = a
    · subst hca
      have hb : (b, o) ∈ rest → b ≠ c := fun hm e => hc (e ▸ mem_keys_of_mem hm)
      simp only [putHost, if_true, List.mem_cons, Prod.mk.injEq]
      tauto
    · simp only [putHost, hca, if_false, List.mem_cons, Prod.mk.injEq, ih hnd]
      have hb : b = c → b ≠ a := fun e => e ▸ hca
      tauto

/-! ### The addresses of one hostname -/

theorem nodup_keys_foldl_putHost {addresses : List Text} (hnd : origins.keys.Nodup) :
    (addresses.foldl (putHost host) origins).keys.Nodup := by
  induction addresses generalizing origins with
  | nil => exact hnd
  | cons a rest ih => exact ih (nodup_keys_putHost hnd)

/-- The addresses of a hostname get that hostname, whatever they had before. -/
theorem mem_foldl_putHost {addresses : List Text} (hnd : origins.keys.Nodup) :
    (b, o) ∈ addresses.foldl (putHost host) origins ↔
      b ∈ addresses ∧ o = some host ∨ b ∉ addresses ∧ (b, o) ∈ origins := by
  induction addresses generalizing origins with
  | nil => simp
  | cons a rest ih =>
    rw [List.foldl_cons, ih (nodup_keys_putHost hnd), mem_putHost hnd, List.mem_cons]
    tauto

/-! ### The loop over the hosts -/

/-- Every address in the map is traced to the hosts read so far, and no host is left out. -/
structure Traces (names : NameService) (hosts : List Text) (origins : Origins) : Prop where
  /-- No address stands in the map twice. -/
  nodup : origins.keys.Nodup
  /-- A hostname in the map was resolved to its address. -/
  resolved : ∀ a h, (a, some h) ∈ origins → h ∈ hosts ∧ Pattern.isPattern h = false ∧
    ∃ answers, (names.resolve h).result = .ok answers ∧ a ∈ answers
  /-- An address without a hostname is itself a host. -/
  literal : ∀ a, (a, none) ∈ origins → a ∈ hosts ∧ Pattern.isPattern a = true
  /-- An address that some hostname was resolved to has a hostname. -/
  hosted : ∀ h ∈ hosts, Pattern.isPattern h = false → ∀ answers,
    (names.resolve h).result = .ok answers → ∀ a ∈ answers, ∃ h', (a, some h') ∈ origins
  /-- A host that is an address or a pattern is in the map. -/
  listed : ∀ a ∈ hosts, Pattern.isPattern a = true → a ∈ origins.keys

theorem Traces.nil : Traces names [] [] where
  nodup := List.nodup_nil
  resolved := by simp
  literal := by simp
  hosted := by simp
  listed := by simp

/-- The outcome of reading one host. -/
theorem addHost_ok_iff {origins' : Origins} :
    (addHost names origins host).result = .ok origins' ↔
      Pattern.isPattern host = true ∧ origins' = origins.addLiteral host ∨
      Pattern.isPattern host = false ∧
        ((∃ answers, (names.resolve host).result = .ok answers ∧
            origins' = answers.foldl (putHost host) origins) ∨
          (∃ f, (names.resolve host).result = .error f ∧ isUnresolved f = true ∧
            origins' = origins)) := by
  unfold addHost
  cases hp : Pattern.isPattern host with
  | true => simp [eq_comm (a := origins')]
  | false =>
    cases hr : (names.resolve host).result with
    | ok answers => simp [eq_comm (a := origins')]
    | error f =>
      by_cases hf : isUnresolved f = true
      · simp [hf, eq_comm (a := origins')]
      · simp [hf]

/-- A host that is an address or a pattern keeps the map traced. -/
theorem Traces.addLiteral {hosts : List Text} (h : Traces names hosts origins)
    (hp : Pattern.isPattern host = true) :
    Traces names (hosts ++ [host]) (origins.addLiteral host) where
  nodup := nodup_keys_addLiteral h.nodup
  resolved := by
    intro a h' hm
    rcases mem_addLiteral.1 hm with hm | ⟨-, -, hn⟩
    · obtain ⟨hh, hrest⟩ := h.resolved a h' hm
      exact ⟨List.mem_append_left _ hh, hrest⟩
    · cases hn
  literal := by
    intro a hm
    rcases mem_addLiteral.1 hm with hm | ⟨-, rfl, -⟩
    · obtain ⟨ha, hpa⟩ := h.literal a hm
      exact ⟨List.mem_append_left _ ha, hpa⟩
    · exact ⟨by simp, hp⟩
  hosted := by
    intro h' hm hn answers hr a ha
    rcases List.mem_append.1 hm with hm | hm
    · obtain ⟨h'', hm⟩ := h.hosted h' hm hn answers hr a ha
      exact ⟨h'', mem_addLiteral.2 (.inl hm)⟩
    · rw [List.mem_singleton.1 hm, hp] at hn
      cases hn
  listed := by
    intro a hm hpa
    rcases List.mem_append.1 hm with hm | hm
    · obtain ⟨o, hm⟩ := exists_mem_of_mem_keys (h.listed a hm hpa)
      exact mem_keys_of_mem (mem_addLiteral.2 (.inl hm))
    · rw [List.mem_singleton.1 hm]
      by_cases hk : host ∈ origins.keys
      · obtain ⟨o, hm⟩ := exists_mem_of_mem_keys hk
        exact mem_keys_of_mem (mem_addLiteral.2 (.inl hm))
      · exact mem_keys_of_mem (mem_addLiteral.2 (.inr ⟨hk, rfl, rfl⟩))

/-- A hostname that resolves keeps the map traced. -/
theorem Traces.putAnswers {hosts answers : List Text} (h : Traces names hosts origins)
    (hp : Pattern.isPattern host = false) (hr : (names.resolve host).result = .ok answers) :
    Traces names (hosts ++ [host]) (answers.foldl (putHost host) origins) where
  nodup := nodup_keys_foldl_putHost h.nodup
  resolved := by
    intro a h' hm
    rcases (mem_foldl_putHost h.nodup).1 hm with ⟨ha, he⟩ | ⟨-, hm⟩
    · cases he
      exact ⟨by simp, hp, answers, hr, ha⟩
    · obtain ⟨hh, hrest⟩ := h.resolved a h' hm
      exact ⟨List.mem_append_left _ hh, hrest⟩
  literal := by
    intro a hm
    rcases (mem_foldl_putHost h.nodup).1 hm with ⟨-, he⟩ | ⟨-, hm⟩
    · cases he
    · obtain ⟨ha, hpa⟩ := h.literal a hm
      exact ⟨List.mem_append_left _ ha, hpa⟩
  hosted := by
    intro h' hm hn answers' hr' a ha
    -- an address that this host shares with one before is now named after this host
    by_cases hmem : a ∈ answers
    · exact ⟨host, (mem_foldl_putHost h.nodup).2 (.inl ⟨hmem, rfl⟩)⟩
    · rcases List.mem_append.1 hm with hm | hm
      · obtain ⟨h'', hm⟩ := h.hosted h' hm hn answers' hr' a ha
        exact ⟨h'', (mem_foldl_putHost h.nodup).2 (.inr ⟨hmem, hm⟩)⟩
      · rw [List.mem_singleton.1 hm, hr] at hr'
        cases hr'
        exact absurd ha hmem
  listed := by
    intro a hm hpa
    rcases List.mem_append.1 hm with hm | hm
    · obtain ⟨o, hm⟩ := exists_mem_of_mem_keys (h.listed a hm hpa)
      by_cases hmem : a ∈ answers
      · exact mem_keys_of_mem ((mem_foldl_putHost h.nodup).2 (.inl ⟨hmem, rfl⟩))
      · exact mem_keys_of_mem ((mem_foldl_putHost h.nodup).2 (.inr ⟨hmem, hm⟩))
    · rw [List.mem_singleton.1 hm, hp] at hpa
      cases hpa

/-- A hostname that has no address keeps the map traced, and the map as it was. -/
theorem Traces.skip {hosts : List Text} {f : Fault} (h : Traces names hosts origins)
    (hp : Pattern.isPattern host = false) (hr : (names.resolve host).result = .error f) :
    Traces names (hosts ++ [host]) origins where
  nodup := h.nodup
  resolved := by
    intro a h' hm
    obtain ⟨hh, hrest⟩ := h.resolved a h' hm
    exact ⟨List.mem_append_left _ hh, hrest⟩
  literal := by
    intro a hm
    obtain ⟨ha, hpa⟩ := h.literal a hm
    exact ⟨List.mem_append_left _ ha, hpa⟩
  hosted := by
    intro h' hm hn answers hr' a ha
    rcases List.mem_append.1 hm with hm | hm
    · exact h.hosted h' hm hn answers hr' a ha
    · rw [List.mem_singleton.1 hm, hr] at hr'
      cases hr'
  listed := by
    intro a hm hpa
    rcases List.mem_append.1 hm with hm | hm
    · exact h.listed a hm hpa
    · rw [List.mem_singleton.1 hm, hp] at hpa
      cases hpa

/-- One turn of the loop keeps the map traced. -/
theorem Traces.addHost {hosts : List Text} {origins' : Origins} (h : Traces names hosts origins)
    (hr : (Origins.addHost names origins host).result = .ok origins') :
    Traces names (hosts ++ [host]) origins' := by
  rcases addHost_ok_iff.1 hr with ⟨hp, rfl⟩ | ⟨hp, ⟨answers, ha, rfl⟩ | ⟨f, hf, -, rfl⟩⟩
  · exact h.addLiteral hp
  · exact h.putAnswers hp ha
  · exact h.skip hp hf

/-- A host is the host part of an entry. -/
def IsHostOf (entry host : Text) : Prop :=
  ∃ parts, HostPort.split entry = .ok parts ∧ parts.host = host

theorem addEntries_cons_ok_iff {entry : Text} {rest : List Text} {origins' : Origins} :
    (addEntries names origins (entry :: rest)).result = .ok origins' ↔
      ∃ parts, HostPort.split entry = .ok parts ∧
        ∃ next, (addHost names origins parts.host).result = .ok next ∧
          (addEntries names next rest).result = .ok origins' := by
  simp only [addEntries, Logged.bind_ok_iff, Logged.result_lift]

/-- The loop over several entries keeps the map traced. -/
theorem Traces.addEntries {hosts entries : List Text} {origins' : Origins}
    (h : Traces names hosts origins)
    (hr : (Origins.addEntries names origins entries).result = .ok origins') :
    ∃ more, List.Forall₂ IsHostOf entries more ∧ Traces names (hosts ++ more) origins' := by
  induction entries generalizing hosts origins with
  | nil =>
    cases hr
    exact ⟨[], .nil, by rwa [List.append_nil]⟩
  | cons entry rest ih =>
    obtain ⟨parts, hp, next, hn, hr⟩ := addEntries_cons_ok_iff.1 hr
    obtain ⟨more, hm, ht⟩ := ih (h.addHost hn) hr
    exact ⟨parts.host :: more, .cons ⟨parts, hp, rfl⟩ hm, by rwa [List.append_cons]⟩

theorem ofMembers_ok_iff {members : List Value} :
    (ofMembers names members).result = .ok origins ↔
      ∃ entries, MemberList.split members = .ok entries ∧
        (addEntries names [] entries).result = .ok origins := by
  simp only [ofMembers, Logged.bind_ok_iff, Logged.result_lift]

/-- The hosts of entries, each listed as often as its entry. -/
theorem mem_hosts_iff {entries hosts : List Text} (hf : List.Forall₂ IsHostOf entries hosts) :
    host ∈ hosts ↔ ∃ entry ∈ entries, IsHostOf entry host := by
  induction hf with
  | nil => simp
  | @cons entry first entries hosts he _ ih =>
    have huniq : IsHostOf entry host ↔ host = first := by
      obtain ⟨parts, hp, rfl⟩ := he
      constructor
      · rintro ⟨parts', hp', rfl⟩
        rw [hp] at hp'
        cases hp'
        rfl
      · rintro rfl
        exact ⟨parts, hp, rfl⟩
    simp [ih, huniq]

/-- The map of the members is traced to exactly the hosts that the members name. -/
theorem traces_ofMembers {members : List Value}
    (hr : (ofMembers names members).result = .ok origins) :
    ∃ hosts, (∀ h, h ∈ hosts ↔ MemberList.HasHost members h) ∧ Traces names hosts origins := by
  obtain ⟨entries, hs, hr⟩ := ofMembers_ok_iff.1 hr
  obtain ⟨hosts, hf, ht⟩ := Traces.nil.addEntries hr
  refine ⟨hosts, fun h => ?_, ht⟩
  rw [mem_hosts_iff hf]
  constructor
  · exact fun he => ⟨entries, hs, he⟩
  · rintro ⟨entries', hs', he⟩
    rw [hs] at hs'
    cases hs'
    exact he

/-! ### The hostname of a pattern -/

/-- The hostname that a pattern gets stands in the map for an address that the pattern selects, or
for the very text of the pattern. -/
theorem exists_mem_of_hostFor_some {pattern h : Text} (hf : origins.hostFor pattern = some h) :
    ∃ a, (a, some h) ∈ origins ∧ (a = pattern ∨ Pattern.selectsText pattern a = true) := by
  unfold hostFor at hf
  split at hf
  · next host hl =>
    cases hf
    obtain ⟨l₁, l₂, he, -⟩ := List.lookup_eq_some_iff.1 hl
    exact ⟨pattern, by simp [he], .inl rfl⟩
  · obtain ⟨⟨a, o⟩, hfind, rfl : o = some h⟩ := Option.bind_eq_some_iff.1 hf
    have hs := List.find?_some hfind
    exact ⟨a, List.mem_of_find?_eq_some hfind, .inr hs⟩

/-- A pattern gets the hostname that stands in the map for its very text. -/
theorem hostFor_of_mem {pattern : Text} (hnd : origins.keys.Nodup)
    (hm : (pattern, some host) ∈ origins) : origins.hostFor pattern = some host := by
  obtain ⟨o, ho⟩ := Option.isSome_iff_exists.1 (isSome_lookup_iff.2 (mem_keys_of_mem hm))
  have hmem : (pattern, o) ∈ origins := by
    obtain ⟨l₁, l₂, he, -⟩ := List.lookup_eq_some_iff.1 ho
    simp [he]
  obtain rfl : o = some host := eq_of_mem_of_nodup hnd hmem hm
  rw [hostFor, ho]

/-- A pattern that gets no hostname although it selects an address of the map selects one that has
no hostname. -/
theorem exists_mem_of_hostFor_none {pattern : Text} (hf : origins.hostFor pattern = none)
    (hm : (a, o) ∈ origins) (hs : Pattern.selectsText pattern a = true) :
    ∃ b, (b, none) ∈ origins ∧ Pattern.selectsText pattern b = true := by
  unfold hostFor at hf
  split at hf
  · cases hf
  · have hsome : (origins.find? fun origin => Pattern.selectsText pattern origin.1).isSome :=
      List.find?_isSome.2 ⟨(a, o), hm, hs⟩
    obtain ⟨⟨b, o'⟩, hfind⟩ := Option.isSome_iff_exists.1 hsome
    have hb := List.find?_some hfind
    rw [hfind, Option.bind_some] at hf
    obtain rfl : o' = none := hf
    exact ⟨b, List.mem_of_find?_eq_some hfind, hb⟩

end Origins

end MemberAddress
